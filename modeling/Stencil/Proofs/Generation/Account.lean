import Stencil.Proofs.Generation.Run

/-!
What a run leaves behind. The templates before the first error have had their turns, all of them if
there is none, and the tree in the end is the one before with their outputs and with the build
directories that are kept on request; at any other place nothing has changed.
-/
namespace Stencil.Generation
open Stencil.Files
open Stencil.Project
open Stencil.Model

variable {g : Generator} {r : Resolver} {b : Build.Builder} {m : Combined} {c : Configuration}
  {t after : Tree} {store : Template.Store} {template : Path} {place : List String}
  {entries : List (String × Node)} {keeps : Change → Prop}

/-! What follows from how a run goes. -/

section Run

variable {ps : List Templated} {turns : List Turn} {changes : List Change}
  {res : Except RunError PUnit}

theorem Run.tree (h : Run g keeps t ps turns changes after res) :
    applyAll t changes = some after := by
  induction h with
  | done => rfl
  | project _ hkept _ hturns _ _ ih =>
    rw [applyAll_append, applyAll_append, hkept, Option.bind_some, applyAll_turns hturns]
    exact ih
  | stopped _ hkept _ hturns _ _ =>
    rw [applyAll_append, hkept]
    exact applyAll_turns hturns
  | unprepared _ hkept _ => exact hkept

theorem filter_isOutput_turns (turns : List Turn) :
    (turns.flatMap Turn.changes).filter Change.isOutput = turns.flatMap Turn.changes := by
  refine List.filter_eq_self.mpr fun k hk => ?_
  obtain ⟨turn, _, hk⟩ := List.mem_flatMap.mp hk
  obtain ⟨o, _, rfl⟩ := List.mem_map.mp hk
  rfl

/-- What a run writes are the outputs of its turns, in order. -/
theorem Run.outputs (hkeeps : ∀ k, keeps k → k.isOutput = false)
    (h : Run g keeps t ps turns changes after res) :
    changes.filter Change.isOutput = turns.flatMap Turn.changes := by
  have hnone : ∀ kept : List Change, (∀ k ∈ kept, keeps k) → kept.filter Change.isOutput = [] := by
    intro kept hkept
    refine List.filter_eq_nil_iff.mpr fun k hk => ?_
    rw [hkeeps k (hkept k hk)]
    exact Bool.false_ne_true
  induction h with
  | done => rfl
  | project _ _ hkept _ _ _ ih =>
    rw [List.filter_append, List.filter_append, hnone _ hkept, filter_isOutput_turns, ih,
      List.nil_append, List.flatMap_append]
  | stopped _ _ hkept _ _ _ =>
    rw [List.filter_append, hnone _ hkept, filter_isOutput_turns, List.nil_append]
  | unprepared _ _ hkept => exact hnone _ hkept

theorem Run.kept (h : Run g keeps t ps turns changes after res) :
    ∀ k ∈ changes, k.isOutput = false → keeps k := by
  have houtput : ∀ (turns : List Turn), ∀ k ∈ turns.flatMap Turn.changes, k.isOutput = true := by
    intro turns k hk
    rw [← filter_isOutput_turns] at hk
    exact (List.mem_filter.mp hk).2
  have hturns : ∀ (turns : List Turn), ∀ k ∈ turns.flatMap Turn.changes, k.isOutput = false →
      keeps k := by
    intro turns k hk hfalse
    rw [houtput turns k hk] at hfalse
    cases hfalse
  induction h with
  | done => exact fun k hk => nomatch hk
  | project _ _ hkept _ _ _ ih =>
    intro k hk hfalse
    rcases List.mem_append.mp hk with hk | hk
    · rcases List.mem_append.mp hk with hk | hk
      · exact hkept k hk
      · exact hturns _ k hk hfalse
    · exact ih k hk hfalse
  | stopped _ _ hkept _ _ _ =>
    intro k hk hfalse
    rcases List.mem_append.mp hk with hk | hk
    · exact hkept k hk
    · exact hturns _ k hk hfalse
  | unprepared _ _ hkept => exact fun k hk _ => hkept k hk

/-- Where no build directory is kept, the outputs of the turns are all that changes. -/
theorem Run.written (hkeeps : ∀ k, ¬keeps k) (h : Run g keeps t ps turns changes after res) :
    changes = turns.flatMap Turn.changes := by
  have hall : changes.filter Change.isOutput = changes := by
    refine List.filter_eq_self.mpr fun k hk => ?_
    by_contra hk'
    exact hkeeps k (h.kept k hk (by simpa using hk'))
  rw [← h.outputs fun k hk => absurd hk (hkeeps k), hall]

/-- A run that succeeds gives every template its turn. -/
theorem Run.all (h : Run g keeps t ps turns changes after (.ok ())) :
    turns.map Turn.template = ps.flatMap Templated.templates := by
  generalize hres : (Except.ok () : Except RunError PUnit) = res at h
  induction h with
  | done => rfl
  | project _ _ _ _ hmap _ ih => rw [List.map_append, List.flatMap_cons, hmap, ih hres]
  | stopped => cases hres
  | unprepared => cases hres

/-- An error ends a run at a template that has no turn, or before the templates of a project. -/
theorem Run.error {e : RunError} (h : Run g keeps t ps turns changes after (.error e)) :
    (∃ k later m c store, ps.flatMap Templated.templates =
        turns.map Turn.template ++ k :: later ∧ captured m c after store k = .error e) ∨
      ∃ done p rest before, ps = done ++ p :: rest ∧
        turns.map Turn.template = done.flatMap Templated.templates ∧
        Work.Ends (g.prepare p.entry) before after (.error e) := by
  generalize hres : (Except.error e : Except RunError PUnit) = res at h
  induction h with
  | done => cases hres
  | @project _ _ _ _ p _ _ _ _ _ _ _ _ _ _ _ _ _ hmap _ ih =>
    rcases ih hres with ⟨k, later, m, c, store, horder, hstop⟩ |
      ⟨done, q, rest, before, rfl, hdone, hprepare⟩
    · refine Or.inl ⟨k, later, m, c, store, ?_, hstop⟩
      rw [List.flatMap_cons, horder, List.map_append, hmap, List.append_assoc]
    · refine Or.inr ⟨p :: done, q, rest, before, rfl, ?_, hprepare⟩
      rw [List.map_append, List.flatMap_cons, hmap, hdone]
  | @stopped _ _ _ _ rest _ _ _ _ _ k later _ _ _ _ _ htemplates hstop =>
    cases hres
    refine Or.inl ⟨k, later ++ rest.flatMap Templated.templates, _, _, _, ?_, hstop⟩
    rw [List.flatMap_cons, htemplates, List.append_assoc, List.cons_append]
  | @unprepared t _ p rest _ _ hprepare =>
    cases hres
    exact Or.inr ⟨[], p, rest, t, rfl, rfl, hprepare⟩

end Run

/-- A template without a turn cannot be read, or its own rendering has errors. -/
theorem captured_error {e : RunError} (h : captured m c t store template = .error e) :
    (∃ fault, e = .read fault) ∨ ∃ messages, e = .render template messages := by
  unfold captured at h
  cases hread : t.readText template with
  | error fault =>
    rw [hread] at h
    cases h
    exact Or.inl ⟨fault, rfl⟩
  | ok source =>
    rw [hread] at h
    simp only [Except.mapError, bind, Except.bind] at h
    split at h
    · cases h
      exact Or.inr ⟨_, rfl⟩
    · cases h

/-- What goes wrong before the templates is no fault of a template. -/
theorem raises_prepare (hg : g.resolve = r.resolve) (e : Entry) :
    Work.Raises Resolver.Unrendered (g.prepare e) := by
  have hconfigure : Work.Raises Resolver.Unrendered (g.configurationOf e) := by
    unfold Generator.configurationOf
    rw [hg]
    refine (Resolver.raises_resolve e).bind fun found => ?_
    split
    · exact Work.raises_pure _
    · exact (Work.raises_say _).bind fun _ => Work.raises_pure _
  have hselect : ∀ s, Work.Raises Resolver.Unrendered (g.select s) := fun s =>
    (Work.raises_sayAll _).bind fun _ => Work.raises_pure _
  have hmodel : ∀ s es, Work.Raises Resolver.Unrendered (g.modelOf s es) := by
    intro s es t e he
    obtain ⟨_, hres⟩ := ends_modelOf_iff.mp (Work.ends_self (g.modelOf s es) t)
    rw [he] at hres
    revert hres
    cases (compileAll t g.exclude es).2 with
    | ok units => exact fun hres => nomatch hres
    | error fault =>
      intro hres
      cases hres
      exact fun _ _ => nofun
  exact hconfigure.bind fun c => (hselect _).bind fun es => (hmodel _ _).bind fun m =>
    Work.raises_pure _

theorem Run.rendered {ps : List Templated} {turns : List Turn} {changes : List Change}
    {messages : List String} (hg : g.resolve = r.resolve)
    (h : Run g keeps t ps turns changes after (.error (.render template messages))) :
    ∃ later m c store, ps.flatMap Templated.templates =
        turns.map Turn.template ++ template :: later ∧
      captured m c after store template = .error (.render template messages) := by
  rcases h.error with ⟨k, later, m, c, store, horder, hstop⟩ | ⟨_, p, _, before, _, _, hprepare⟩
  · rcases captured_error hstop with ⟨fault, he⟩ | ⟨messages', he⟩
    · cases he
    · cases he
      exact ⟨later, m, c, store, horder, hstop⟩
  · exact absurd rfl ((raises_prepare hg p.entry).ends hprepare template messages)

theorem Run.compiled {ps : List Templated} {turns : List Turn} {changes : List Change}
    {fault : CompileError} (hps : ∀ p ∈ ps, p.templates ≠ [])
    (h : Run g keeps t ps turns changes after (.error (.compile fault))) :
    ∃ done p rest template later before, ps = done ++ p :: rest ∧
      p.templates = template :: later ∧
      turns.map Turn.template = done.flatMap Templated.templates ∧
      Work.Ends (g.prepare p.entry) before after (.error (.compile fault)) := by
  rcases h.error with ⟨k, later, m, c, store, _, hstop⟩ |
    ⟨done, p, rest, before, rfl, hdone, hprepare⟩
  · rcases captured_error hstop with ⟨fault, he⟩ | ⟨messages, he⟩
    · cases he
    · cases he
  · obtain ⟨template, later, hp⟩ := List.exists_cons_of_ne_nil (hps p (by simp))
    exact ⟨done, p, rest, template, later, before, rfl, hp, hdone, hprepare⟩

/-- What a run with some turns and changes has done to a tree. -/
structure Account (g : Generator) (r : Resolver) (place : List String) (t after : Tree)
    (res : Except RunError Summary) (turns : List Turn) (changes : List Change) : Prop where
  run : Run g (Keeps r place) t (g.projects t) turns changes after (res.map fun _ => ())
  /-- The tree in the end is the one before with the changes, in order. -/
  tree : applyAll t changes = some after
  /-- The outputs of the turns are what is written. -/
  outputs : changes.filter Change.isOutput = turns.flatMap Turn.changes
  /-- Nothing else is changed, unless build directories are to be kept. -/
  kept : ∀ k ∈ changes, k.isOutput = false → Keeps r place k
  written : r.keepBuild = false → applyAll t (turns.flatMap Turn.changes) = some after
  /-- A run without an error gives every template its turn. -/
  all : ∀ s, res = .ok s →
    turns.map Turn.template = (g.projects t).flatMap Templated.templates
  /-- A template whose rendering fails ends the run; those before it have had their turns. -/
  rendered : ∀ template messages, res = .error (.render template messages) →
    ∃ later m c store, (g.projects t).flatMap Templated.templates =
        turns.map Turn.template ++ template :: later ∧
      captured m c after store template = .error (.render template messages)
  /-- A project that cannot be compiled ends the run before its first template. -/
  compiled : ∀ fault, res = .error (.compile fault) →
    ∃ done p rest template later before, g.projects t = done ++ p :: rest ∧
      p.templates = template :: later ∧
      turns.map Turn.template = done.flatMap Templated.templates ∧
      Work.Ends (g.prepare p.entry) before after (.error (.compile fault))
  /-- The last output at a place lies there. -/
  last : ∀ before template o later, changes = before ++ .output template o :: later →
    (∀ k ∈ later, ¬k.Touches t (t.resolve (outputPath template o)).names) →
    after.kindAt (t.resolve (outputPath template o)).names = some (.file (.ofText o.content))
  /-- Any other place is as it was, but for new directories above outputs. -/
  same : ∀ names, (∀ k ∈ changes, ¬k.Touches t names) →
    after.kindAt names = t.kindAt names ∨ t.kindAt names = none ∧
      after.kindAt names = some .directory ∧ ∃ k ∈ changes, k.Above t names

theorem templates_ne_nil {p : Templated} (h : p ∈ g.projects t) : p.templates ≠ [] := by
  intro hnil
  have hkept := (List.mem_filter.mp h).2
  simp [hnil] at hkept

/-- A run of templates leaves the tree with the outputs of those that had their turns, and nothing
else. Its resolver builds in a directory for temporary files, which exists, and no file fails to be
read or written. -/
theorem generate_tree (g : Generator) (r : Resolver) (b : Build.Builder) (t : Tree)
    (hg : g.resolve = r.resolve) (hb : r.Builds b)
    (ht : t.locate r.temporary = .ok (.node place (.dir entries)))
    (hfiles : ∀ e, (g.generate t).result ≠ .error (.file e)) :
    ∃ turns changes,
      Account g r place t (g.generate t).tree (g.generate t).result turns changes := by
  have hends := ends_generate_iff.mp (Work.ends_self g.generate t)
  generalize (g.generate t).tree = after at hends ⊢
  generalize (g.generate t).result = res at hends hfiles ⊢
  rcases ends_generateProjects hg hb ht hends with ⟨turns, changes, hrun⟩ | ⟨e, he⟩
  · have hkeeps : ∀ k, Keeps r place k → k.isOutput = false := by
      rintro _ ⟨_, n, node, rfl⟩
      rfl
    have htree := hrun.tree
    refine ⟨turns, changes, ?_⟩
    constructor
    case run => exact hrun
    case tree => exact htree
    case outputs => exact hrun.outputs hkeeps
    case kept => exact hrun.kept
    case written =>
      intro hdrop
      have hnone : ∀ k, ¬Keeps r place k := by
        intro k hk
        exact Bool.false_ne_true (hdrop.symm.trans hk.1)
      rw [← hrun.written hnone, htree]
    case all =>
      rintro s rfl
      exact hrun.all
    case rendered =>
      rintro template messages rfl
      exact hrun.rendered hg
    case compiled =>
      rintro fault rfl
      exact hrun.compiled fun p hp => templates_ne_nil hp
    case last =>
      rintro before template o later rfl hlater
      exact kindAt_of_last htree hlater
    case same => exact fun names hn => kindAt_applyAll htree hn
  · exact absurd he (hfiles e)

/-! An example: the first template writes over the second one, which could not be rendered as it was
in the beginning. -/

def deskEntries : List (String × Node) :=
  [("main.py", .file (.ofText "class A: pass")),
    ("a.nt", .file (.ofText "\x7b% capture 'b.nt' %\x7dy\x7b% endcapture %\x7d")),
    ("b.nt", .file (.ofText "\x7b\x7b"))]

def desk : Tree where
  root := .dir [("tmp", .dir []), ("p", .dir deskEntries)]
  here := ⟨.root, []⟩

def deskTemplates : List Path := [⟨.root, ["p", "a.nt"]⟩, ⟨.root, ["p", "b.nt"]⟩]

def deskResolver : Resolver where
  build := fun descriptor restore => ({} : Build.Builder).build descriptor restore
  temporary := ⟨.root, ["tmp"]⟩

def deskGenerator : Generator := { shelfGenerator with resolve := deskResolver.resolve }

def deskModules : List SourceModule :=
  ((sourceFiles desk standardExclude ⟨.root, ["p"]⟩).mapM
    (readSource desk ⟨.root, ["p"]⟩ "p" false)).toOption.getD []

def deskUnit : Project.Unit := ⟨"p", ⟨.root, ["p", "pyproject.toml"]⟩, deskModules⟩

def deskModel : Combined := combinedModel {} [deskUnit]

theorem compile_desk : (shelfEntry.compile desk standardExclude).result = .ok deskUnit := by
  have hne : deskModules.isEmpty = false := by decide +kernel
  exact compile_ownModules rfl rfl rfl (List.isEmpty_eq_false_iff.mp hne)

theorem prepare_desk :
    Work.Ends (deskGenerator.prepare shelfEntry) desk desk (.ok ({}, deskModel)) := by
  have hmarked : (deskResolver.markedClasses deskUnit).isEmpty = true := by decide +kernel
  have hselected : selected deskGenerator.workspace {} = [shelfEntry] := by decide
  exact ends_prepare_alone (r := deskResolver) rfl rfl compile_desk (List.isEmpty_iff.mp hmarked)
    hselected

theorem projects_desk : deskGenerator.projects desk = [⟨shelfEntry, deskTemplates⟩] := by
  have hfound : desk.find ⟨.root, ["p"]⟩ ".nt" (fun _ => false) = deskTemplates := by
    have hnode : desk.node ⟨.root, ["p"]⟩ = .ok (.dir deskEntries) := rfl
    have hown : ownFiles ".nt" deskEntries = ["a.nt", "b.nt"] := by decide +kernel
    have hbelow : findBelow ".nt" (fun _ => false) deskEntries = [] := by decide +kernel
    rw [Tree.find, hnode]
    simp only [Node.find, hown, hbelow, byName, List.mergeSort_nil]
    rw [List.mergeSort_of_pairwise (by decide)]
    rfl
  change [(⟨shelfEntry, desk.find ⟨.root, ["p"]⟩ ".nt" fun _ => false⟩ : Templated)].filter
    (fun p => !p.templates.isEmpty) = _
  rw [hfound]
  rfl

/-- The output of the first template is all that is written. -/
theorem summary_desk :
    (deskGenerator.generate desk).result = .ok ⟨["p"], 2, [⟨.root, ["p", "b.nt"]⟩]⟩ := by
  have hrendered : ((deskGenerator.renderAll deskModel {} (.ofModel deskModel) deskTemplates)
      desk).result.toOption = some [⟨.root, ["p", "b.nt"]⟩] := by decide +kernel
  have hproject : ∃ mid, Work.Ends
      (deskGenerator.generateProject ⟨shelfEntry, deskTemplates⟩) desk mid
      (.ok [⟨.root, ["p", "b.nt"]⟩]) := by
    have hends := Work.ends_self
      (deskGenerator.generateProject ⟨shelfEntry, deskTemplates⟩) desk
    rcases ends_generateProject hends with ⟨mid, c, m, hprepare, hall⟩ | ⟨e, hprepare, _⟩
    · obtain ⟨rfl, hready⟩ := prepare_desk.unique hprepare
      cases hready
      rw [hall.result] at hrendered
      exact ⟨_, by rw [← eq_ok_of_toOption hrendered]; exact hends⟩
    · cases (prepare_desk.unique hprepare).2
  obtain ⟨mid, hproject⟩ := hproject
  have hends : Work.Ends (deskGenerator.generateProjects [⟨shelfEntry, deskTemplates⟩]) desk mid
      (.ok ⟨["p"], 2, [⟨.root, ["p", "b.nt"]⟩]⟩) := by
    unfold Generator.generateProjects
    rw [Work.ends_bind_ok hproject]
    exact ⟨rfl, rfl⟩
  rw [← projects_desk, ← ends_generate_iff] at hends
  exact hends.result

theorem result_desk : ∃ s, (deskGenerator.generate desk).result = .ok s := ⟨_, summary_desk⟩

theorem generate_desk : deskGenerator.resolve = deskResolver.resolve ∧
    deskResolver.Builds {} ∧
    desk.locate deskResolver.temporary = .ok (.node ["tmp"] (.dir [])) ∧
    (∀ e, (deskGenerator.generate desk).result ≠ .error (.file e)) ∧
    ∃ turns changes, Account deskGenerator deskResolver ["tmp"] desk
        (deskGenerator.generate desk).tree (deskGenerator.generate desk).result turns changes ∧
      turns.map Turn.template = deskTemplates := by
  obtain ⟨s, hs⟩ := result_desk
  have hbuilds : deskResolver.Builds {} := ⟨fun _ _ => rfl, fun _ _ => rfl⟩
  have hfiles : ∀ e, (deskGenerator.generate desk).result ≠ .error (.file e) := by
    intro e he
    rw [hs] at he
    cases he
  obtain ⟨turns, changes, haccount⟩ := generate_tree deskGenerator deskResolver {} desk rfl hbuilds
    rfl hfiles
  refine ⟨rfl, hbuilds, rfl, hfiles, turns, changes, haccount, ?_⟩
  rw [haccount.all s hs, projects_desk]
  rfl

end Stencil.Generation
