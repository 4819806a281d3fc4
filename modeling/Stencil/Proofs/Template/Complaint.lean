import Stencil.Proofs.Template.Triple

/-!
Complaints about templates. A run never complains about a text, so a rendering that ends in a
complaint has it from reading: of the template itself, or of a file beside it that the run asks for,
however deep, and which it asks for last. It is told with the place of the template and the line in
the text that the complaint is about; where that is another file, the line is not one of the template.
-/
namespace Stencil.Template
open Stencil.Files
open Stencil.Text

variable {s : Setting} {store held after : Store} {source text name : String}
  {data : Model.Combined} {f : SyntaxFault} {p q : Path} {load : String → Reading Loaded}

/-- There is a complaint about a text, whatever it is the text of. -/
def Setting.Faults (s : Setting) (text : String) (f : SyntaxFault) : Prop :=
  Loaded.read s.ownFilters none text = .error (.fault f)

/-- There is none about the template, but about a file beside it, and the run asks for that file and
for nothing after it. -/
structure FaultBeside (s : Setting) (store : Store) (source : String) (data : Model.Combined)
    (p : Path) (f : SyntaxFault) : Prop where
  readable : ∃ t, Loaded.read s.ownFilters none source = .ok t
  last : ∃ q name, s.path = some q ∧ (asked s store source data).getLast? = some name ∧
    fileOf? q.parent name = some p
  faulty : ∃ text, s.tree.readText p = .ok text ∧ s.Faults text f

theorem outcomeOf_eq_error_iff {α : Type} {r : Reading α} :
    outcomeOf r = .error f ↔ r = .error (.fault f) := by
  rcases r with (f' | e) | a <;> simp [outcomeOf]

/-! What a run ends in. -/

theorem names_of_found {α : Type} {next : Outcome Loaded → Asking α} {found : Outcome Loaded}
    (h : outcomeOf (load name) = .ok found) :
    (Asking.ask name held next).names load = name :: (next found).names load := by
  simp only [Asking.names, h]

theorem names_of_fault {α : Type} {next : Outcome Loaded → Asking α}
    (h : outcomeOf (load name) = .error f) :
    (Asking.ask name held next).names load = [name] := by
  simp only [Asking.names, h]

/-- A run ends in a complaint where the template it asks for last has it. -/
theorem answered_eq_error_iff {α : Type} {x : Asking α} :
    (∃ held, x.answered load = .error (f, held)) ↔
      ∃ name, (x.names load).getLast? = some name ∧ load name = .error (.fault f) := by
  induction x with
  | done a => simp [Asking.answered, Asking.names]
  | ask name held next ih =>
    rw [Asking.answered_ask]
    cases found : outcomeOf (load name) with
    | error f' =>
      have first : load name = .error (.fault f') := outcomeOf_eq_error_iff.1 found
      rw [names_of_fault found]
      constructor
      · rintro ⟨held', h⟩
        obtain ⟨rfl, -⟩ := Prod.mk.inj (Except.error.inj h)
        exact ⟨name, rfl, first⟩
      · rintro ⟨name', last, h⟩
        obtain rfl : name = name' := Option.some.inj last
        obtain rfl : f' = f := by simpa [first] using h
        exact ⟨held, rfl⟩
    | ok answer =>
      rw [names_of_found found]
      refine (ih answer).trans ?_
      cases (next answer).names load with
      | nil =>
        -- Where nothing is asked for after it, this one is the last, and there is no complaint.
        constructor
        · rintro ⟨name', last, -⟩
          cases last
        · rintro ⟨name', last, h⟩
          obtain rfl : name = name' := Option.some.inj last
          rw [outcomeOf_eq_error_iff.2 h] at found
          cases found
      | cons second rest => rw [List.getLast?_cons_cons]

/-! What is read. -/

/-- The name a template is asked for by does not count. -/
theorem read_eq_error_iff {own : List (String × Value)} {e : Refusal} (name : Option String) :
    Loaded.read own name text = .error e ↔ Loaded.read own none text = .error e := by
  unfold Loaded.read
  cases Body.read text with
  | error e' => rfl
  | ok body =>
    change (Check.template own body >>= _) = _ ↔ (Check.template own body >>= _) = _
    cases Check.template own body with
    | error e' => rfl
    | ok checked => constructor <;> intro h <;> cases h

theorem load_eq_fault_iff : s.load name = .error (.fault f) ↔
    ∃ q p text, s.path = some q ∧ fileOf? q.parent name = some p ∧
      s.tree.readText p = .ok text ∧ s.Faults text f := by
  constructor
  · intro h
    unfold Setting.load Loaded.find at h
    split at h
    · cases h
    case h_2 q there =>
      split at h
      · cases h
      case h_2 p file =>
        dsimp only at h
        split at h
        · split at h
          case h_1 text reads => exact ⟨q, p, text, there, file, reads, (read_eq_error_iff _).1 h⟩
          all_goals cases h
        · cases h
  · rintro ⟨q, p, text, there, file, reads, faults⟩
    obtain ⟨d, node⟩ := Tree.node_of_readText reads
    unfold Setting.load Loaded.find
    rw [there]
    simp only [file, node, reads]
    exact (read_eq_error_iff _).2 faults

/-! What is rendered. -/

theorem outputsOn_eq_fault_iff : outputsOn s store source data = (.error (.fault f), after) ↔
    ran s store source data = (.error (.fault f), after) := by
  unfold outputsOn
  obtain ⟨r, held⟩ := ran s store source data
  cases r with
  | error e => constructor <;> intro h <;> cases h <;> rfl
  | ok text => constructor <;> intro h <;> cases h

theorem ran_of_own (h : s.Faults source f) :
    ran s store source data = (.error (.fault f), store) := by
  unfold ran
  rw [show Loaded.read s.ownFilters none source = _ from h]

/-- The run of a template that is read ends in a complaint about another one. -/
theorem ran_of_read {t : Loaded} (h : Loaded.read s.ownFilters none source = .ok t) :
    (∃ after, ran s store source data = (.error (.fault f), after)) ↔
      ∃ held, (running s store t data).answered s.load = .error (f, held) := by
  unfold ran
  rw [h]
  dsimp only
  cases (running s store t data).answered s.load with
  | error ended =>
    obtain ⟨f', held⟩ := ended
    constructor
    · rintro ⟨after, h⟩
      cases h
      exact ⟨held, rfl⟩
    · rintro ⟨held', h⟩
      cases h
      exact ⟨held, rfl⟩
  | ok ended =>
    obtain ⟨r, held⟩ := ended
    constructor
    · rintro ⟨after, h⟩
      cases r <;> cases h
    · rintro ⟨held', h⟩
      cases h

theorem ran_fault_iff : (∃ after, ran s store source data = (.error (.fault f), after)) ↔
    s.Faults source f ∨ ∃ p, FaultBeside s store source data p f := by
  cases read : Loaded.read s.ownFilters none source with
  | error e =>
    have ended : ran s store source data = (.error e, store) := by
      unfold ran
      rw [read]
    constructor
    · rintro ⟨after, h⟩
      obtain ⟨rfl, -⟩ : e = .fault f ∧ _ := by simpa [ended] using h
      exact .inl read
    · rintro (own | ⟨p, beside⟩)
      · exact ⟨store, ran_of_own own⟩
      · obtain ⟨t, reads⟩ := beside.readable
        cases read.symm.trans reads
  | ok t =>
    have asks : asked s store source data = (running s store t data).names s.load := by
      unfold asked
      rw [read]
    rw [ran_of_read read, answered_eq_error_iff]
    constructor
    · rintro ⟨name, last, faulty⟩
      obtain ⟨q, p, text, there, file, reads, faults⟩ := load_eq_fault_iff.1 faulty
      exact .inr ⟨p, ⟨t, read⟩, ⟨q, name, there, asks ▸ last, file⟩, text, reads, faults⟩
    · rintro (own | ⟨p, beside⟩)
      · cases read.symm.trans own
      · obtain ⟨q, name, there, last, file⟩ := beside.last
        obtain ⟨text, reads, faults⟩ := beside.faulty
        exact ⟨name, asks ▸ last, load_eq_fault_iff.2 ⟨q, p, text, there, file, reads, faults⟩⟩

/-- A file there is a complaint about holds something else than the template. -/
theorem FaultBeside.readText_ne (h : FaultBeside s store source data p f) :
    s.tree.readText p ≠ .ok source := by
  intro same
  obtain ⟨t, read⟩ := h.readable
  obtain ⟨text, reads, faults⟩ := h.faulty
  obtain rfl : source = text := Except.ok.inj (same.symm.trans reads)
  cases read.symm.trans faults

/-- A rendering ends in a complaint if there is one about the template, or about a file that it asks
for, at any depth, and after which it asks for nothing. What is told then is the place of the template
with the line in the text that the complaint is about. So where the template is what its file holds,
and the complaint is about another file, the line is that of a file that is not named. -/
theorem render_fault (s : Setting) (store : Store) (source : String) (data : Model.Combined) :
    (∀ f, (∃ after, outputsOn s store source data = (.error (.fault f), after)) ↔
      s.Faults source f ∨ ∃ p, FaultBeside s store source data p f) ∧
    (∀ f after, outputsOn s store source data = (.error (.fault f), after) →
      renderOn s store source data = ({
        outputs := []
        messages := [s.location ++ "(" ++ ofNat f.line ++ "): " ++ f.message]
        hasErrors := true }, after)) ∧
    ∀ f p q, FaultBeside s store source data p f → s.path = some q →
      s.tree.readText q = .ok source → s.location = q.toString ∧ p ≠ q := by
  refine ⟨fun f => ?_, fun f after h => ?_, fun f p q beside there holds => ⟨?_, ?_⟩⟩
  · simp only [outputsOn_eq_fault_iff]
    exact ran_fault_iff
  · unfold renderOn
    rw [h]
    rfl
  · rw [Setting.location, there]
    rfl
  · rintro rfl
    exact beside.readText_ne holds

/-- A template that includes a file beside it. -/
def including : String := "\x7b% include 'bad.inc' %\x7d"

/-- The template with that file, whose second line is not complete. -/
def tray : Setting where
  path := some (.ofString "p/outer.nt")
  tree := ⟨.dir [("p", .dir [("bad.inc", .file (.ofText "ok\n\x7b\x7b 1 + \x7d\x7d")),
    ("outer.nt", .file (.ofText including))])], ⟨.root, []⟩⟩

/-- The second line is that of the file, but the template is named. -/
theorem render_fault_tray :
    ∃ f p, FaultBeside tray (.ofModel ⟨[]⟩) including ⟨[]⟩ p f ∧ p ≠ .ofString "p/outer.nt" ∧
      f.line = 2 ∧ render tray including ⟨[]⟩ = {
        messages := ["p/outer.nt(2): unexpected 'end of print statement'"], hasErrors := true } := by
  obtain ⟨ends, told, apart⟩ := render_fault tray (.ofModel ⟨[]⟩) including ⟨[]⟩
  let f : SyntaxFault := ⟨"unexpected 'end of print statement'", 2⟩
  have result : (outputsOn tray (.ofModel ⟨[]⟩) including ⟨[]⟩).1 = .error (.fault f) := by
    decide +kernel
  have readable : (Loaded.read tray.ownFilters none including).toBool = true := by decide +kernel
  have holds : tray.tree.readText (.ofString "p/outer.nt") = .ok including := by decide +kernel
  obtain ⟨after, ended⟩ : ∃ after,
      outputsOn tray (.ofModel ⟨[]⟩) including ⟨[]⟩ = (.error (.fault f), after) := by
    generalize outputsOn tray (.ofModel ⟨[]⟩) including ⟨[]⟩ = x at result
    exact ⟨x.2, Prod.ext result rfl⟩
  have shown : tray.location ++ "(" ++ ofNat f.line ++ "): " ++ f.message =
      "p/outer.nt(2): unexpected 'end of print statement'" := by decide +kernel
  obtain own | ⟨p, beside⟩ := (ends f).1 ⟨after, ended⟩
  · have read : Loaded.read tray.ownFilters none including = .error (.fault f) := own
    rw [read] at readable
    cases readable
  · refine ⟨f, p, beside, (apart f p _ beside rfl holds).2, rfl, ?_⟩
    rw [render, told f after ended, shown]

end Stencil.Template
