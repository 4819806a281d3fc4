import Stencil.Proofs.CommandLine.Later
import Stencil.Proofs.CommandLine.Verbose
import Stencil.Proofs.Generation.Carried

/-!
Calls that are repeated. A call that succeeds and writes nothing that it reads or looks for leaves a
tree on which it succeeds again: everything is found where it was, every template captures what it
captured before, and writing that once more changes nothing.
-/
namespace Stencil.CommandLine
open Stencil.Files
open Stencil.Files.Tree (Overlaid Clear Unfound)
open Stencil.Generation
open Stencil.Model
open Stencil.Project
open Stencil.Settings (Options)

variable {s : Surroundings} {o : Options} {w w' : Workspace} {suffixes : List String}
  {located : Path → Prop} {t after A A' B : Tree} {m : Combined} {c : Configuration}
  {store last : Template.Store} {turns : List Turn} {ps ps' : List Templated}
  {all done later changes : List Generation.Change}

/-! What templates ask for. -/

/-- A file that one of the templates asks for when its turn comes. -/
inductive TurnsAsk (m : Combined) (c : Configuration) :
    Tree → Template.Store → List Path → Path → Prop where
  | here {t store template rest q} : Asks m c t store template q →
      TurnsAsk m c t store (template :: rest) q
  | later {t mid store next template rest os q} :
      captured m c t store template = .ok (os, next) →
      applyAll t (Turn.changes ⟨template, os⟩) = some mid →
      TurnsAsk m c mid next rest q → TurnsAsk m c t store (template :: rest) q

/-- A file that a template of one of the projects asks for when its turn comes. -/
inductive RunAsks (g : Generator) : Tree → List Templated → Path → Prop where
  | here {t mid p rest c m q} : Work.Ends (g.prepare p.entry) t mid (.ok (c, m)) →
      TurnsAsk m c mid (.ofModel m) p.templates q → RunAsks g t (p :: rest) q
  | later {t mid last p rest c m turns store q} :
      Work.Ends (g.prepare p.entry) t mid (.ok (c, m)) →
      Turns m c mid (.ofModel m) turns last store → turns.map Turn.template = p.templates →
      RunAsks g last rest q → RunAsks g t (p :: rest) q

/-! The same turns once more. -/

/-- The trees of a stage come one after another, and the second time no directory is new. -/
theorem stages_of_stage (hu : Unfound suffixes (written t all))
    (hd : Unfound suffixes (made t after)) (h : Stage t after all done later A B) :
    Stages suffixes (written t all) (made t after) t t A after B where
  first := .refl _ _ _ t
  before := h.overlaid_before hu hd
  lookups := (h.overlaid_before hu hd).trans (h.overlaid_rest hu hd)
  follows := (h.overlaid_rest hu hd).trans (h.overlaid_again hu hd)
  after := h.overlaid_again hu hd
  dirs := fun names => (h.refilled.dirs names).mp

theorem turns_again (ht : t.Proper) (hu : Unfound suffixes (written t all))
    (hd : Unfound suffixes (made t after)) {extension : String} (hx : extension ∈ suffixes)
    (h : Turns m c A store turns A' last)
    (hst : Stage t after all done (turns.flatMap Turn.changes ++ later) A B)
    (hf : ∀ template ∈ turns.map Turn.template, FoundIn t extension template)
    (hasks : ∀ q, TurnsAsk m c A store (turns.map Turn.template) q → ¬written t all q.names) :
    ∃ B', Turns m c B store turns B' last ∧
      Stage t after all (done ++ turns.flatMap Turn.changes) later A' B' := by
  induction h generalizing done B with
  | none => exact ⟨B, .none _ _, by simpa using hst⟩
  | @turn _ _ _ _ _ _ template os rest hc happly _ ih =>
    rw [List.flatMap_cons, List.append_assoc] at hst
    obtain ⟨B₁, hB₁, hst₁⟩ := hst.step happly
    have hc' := captured_later ht (stages_of_stage hu hd hst).follows hu hx (hf template (by simp))
      (fun q hq => hasks q (.here hq)) hc
    obtain ⟨B', hB', hst'⟩ := ih hst₁ (fun k hk => hf k (List.mem_cons_of_mem _ hk))
      fun q hq => hasks q (.later hc happly hq)
    refine ⟨B', .turn hc' hB₁ hB', ?_⟩
    rw [List.flatMap_cons, ← List.append_assoc]
    exact hst'

theorem eq_nil_of_unkept {kept : List Generation.Change} (h : ∀ k ∈ kept, False) : kept = [] :=
  List.eq_nil_iff_forall_not_mem.mpr h

/-- A run goes the same way on the tree that it leaves. -/
theorem run_again (hs : Sheltered suffixes (written t all) (made t after) located t)
    (hpy : ".py" ∈ suffixes) (hx : o.templateExtension ∈ suffixes) (hr : s.Repeatable o t after)
    (hw : List.Forall₂ (Entry.Alike (Link (written t all) (made t after) located t after))
      w.projects w'.projects) (hd : ∀ e ∈ w.projects, e.Describes t)
    (h : Run (s.generator o w) (fun _ => False) A ps turns changes A' (.ok ()))
    (hps : List.Forall₂ (Templated.Alike (Link (written t all) (made t after) located t after))
      ps ps') (hsub : ∀ p ∈ ps, p ∈ (s.generator o w).projects t)
    (hst : Stage t after all done (changes ++ later) A B)
    (hasks : ∀ q, RunAsks (s.generator o w) A ps q → ¬written t all q.names) :
    ∃ B', Run (s.generator o w') (fun _ => False) B ps' turns changes B' (.ok ()) ∧
      Stage t after all (done ++ changes) later A' B' := by
  generalize hres : (Except.ok () : Except RunError PUnit) = res at h
  induction h generalizing done B ps' with
  | done =>
    cases hps
    exact ⟨B, .done _, by simpa using hst⟩
  | @project A mid A₁ A' p rest kept c m turns store more changes _ hready hkept hkeeps hturns hmap
      hrest ih =>
    obtain ⟨p', rest', hp, hps', rfl⟩ := List.forall₂_cons_left_iff.mp hps
    cases eq_nil_of_unkept hkeeps
    cases hkept
    have hmem := hsub p (by simp)
    obtain ⟨hentry, _⟩ := mem_projects hmem
    have hstages := stages_of_stage hs.written hs.made hst
    obtain ⟨_, hready'⟩ := prepare_later hs hstages hpy hr hst.refilled hw hd hmem
      hp.entry hready
    rw [List.nil_append, List.append_assoc] at hst
    have hfound : ∀ template ∈ turns.map Turn.template,
        FoundIn t o.templateExtension template := by
      intro template ht
      rw [hmap] at ht
      obtain ⟨e, _, rfl⟩ := List.mem_map.mp (List.mem_filter.mp hmem).1
      exact foundIn_of_mem hs hp.entry (hd _ hentry) ht
    obtain ⟨B₁, hturns', hst₁⟩ := turns_again hr.proper hs.written hs.made hx hturns hst hfound
      fun q hq => hasks q (.here hready (by rwa [← hmap]))
    obtain ⟨B', hrest', hst'⟩ := ih hps' (fun q hq => hsub q (by simp [hq])) hst₁
      (fun q hq => hasks q (.later hready hturns hmap hq)) hres
    have hnothing : applyAll B [] = some B := rfl
    refine ⟨B', .project hready' hnothing nofun hturns' (hmap.trans hp.templates.symm) hrest', ?_⟩
    rw [List.nil_append, ← List.append_assoc]
    exact hst'
  | stopped => cases hres
  | unprepared => cases hres

/-! What a call looks up. -/

/-- A location of a project: the target, one that a solution lists with a descriptor, and those that
the references of such a project name. -/
inductive Referring (t : Tree) (o : Options) : Path → Prop where
  | target : o.kind = .project → Referring t o (t.resolve o.target)
  | entry {raw p} : o.kind = .solution → raw ∈ listedPlaces t (t.resolve o.target) →
      descriptorPath t raw = .ok p → isDescriptorName p = true → Referring t o raw
  | reference {raw p q} : Referring t o raw → descriptorPath t raw = .ok p → q ∈ namedBy t p →
      Referring t o q

/-- A location that an entry of a solution or a reference of a project names. -/
def Named (t : Tree) (o : Options) (q : Path) : Prop :=
  o.kind = .solution ∧ q ∈ listedPlaces t (t.resolve o.target) ∨
    ∃ raw p, Referring t o raw ∧ descriptorPath t raw = .ok p ∧ q ∈ namedBy t p

/-- What a call writes has nothing to do with what it reads. -/
structure Unnoticed (s : Surroundings) (o : Options) (t after : Tree) (turns : List Turn) : Prop where
  /-- No new name ends in a suffix that is searched for. -/
  files : Unfound [".py", ".toml", o.templateExtension] (written t (turns.flatMap Turn.changes))
  directories : Unfound [".py", ".toml", o.templateExtension] (made t after)
  target : ¬written t (turns.flatMap Turn.changes) (t.resolve o.target).names
  /-- No template asks for a file that is written. -/
  asked : ∀ w q, (Project.load t o).2 = .ok w →
    RunAsks (s.generator o w) t ((s.generator o w).projects t) q →
    ¬written t (turns.flatMap Turn.changes) q.names
  /-- No file is written at or above a named location. -/
  named : ∀ q, Named t o q → ∀ names, names <+: q.names →
    ¬written t (turns.flatMap Turn.changes) names

/-- No directory is made above a named location in which the next name of the location is too
long. -/
def NamesFit (o : Options) (t after : Tree) : Prop :=
  ∀ q, Named t o q → ∀ names x, names ++ [x] <+: q.names → made t after names →
    x.utf8ByteSize ≤ maxNameBytes

theorem Unnoticed.clear (h : Unnoticed s o t after turns) (hfit : NamesFit o t after) {q : Path}
    (hq : Named t o q) : Clear (written t (turns.flatMap Turn.changes)) (made t after) q :=
  fun names hnames => ⟨h.named q hq names hnames, fun hmade x hx => hfit q hq names x hx hmade⟩

theorem resolved_of_listed {solution q : Path} (h : q ∈ listedPlaces t solution) : q.Resolved := by
  unfold listedPlaces at h
  split at h
  · obtain ⟨l, _, rfl⟩ := List.mem_map.mp h
    exact Path.resolved_resolve _ _
  · cases h

theorem resolved_of_namedBy {p q : Path} (h : q ∈ namedBy t p) : q.Resolved := by
  unfold namedBy at h
  split at h
  · cases h
  · split at h
    · cases h
    · obtain ⟨v, _, hv⟩ := List.mem_filterMap.mp h
      obtain ⟨text, _, rfl⟩ := Option.map_eq_some_iff.mp hv
      exact Path.resolved_resolve _ _

theorem Referring.resolved {q : Path} (h : Referring t o q) : q.Resolved := by
  cases h with
  | target => exact Path.resolved_resolve _ _
  | entry _ hmem _ _ => exact resolved_of_listed hmem
  | reference _ _ hmem => exact resolved_of_namedBy hmem

/-- Above what is there nothing is written and nothing is new. -/
theorem clear_of_node {W D : List String → Prop} {p : Path} {n : Node} (hp : p.Resolved)
    (h : t.node p = .ok n) (hw : ¬W p.names)
    (hdir : ∀ names, W names → t.kindAt names ≠ some .directory)
    (hnew : ∀ names, D names → t.kindAt names = none) : Clear W D p := by
  rintro q ⟨more, hq⟩
  have hget := Tree.get?_of_node hp h
  rw [← hq, Node.get?_append] at hget
  obtain ⟨above, habove, hget⟩ := Option.bind_eq_some_iff.mp hget
  have hkind : t.kindAt q = some above.kind := by rw [Tree.kindAt, Node.kindAt, habove]; rfl
  refine ⟨?_, fun hd => by cases (hnew q hd).symm.trans hkind⟩
  cases more with
  | nil =>
    rw [List.append_nil] at hq
    rwa [hq]
  | cons x rest =>
    obtain ⟨entries, _, rfl, _⟩ := Node.exists_child hget
    exact fun hw => hdir q hw hkind

theorem outputs_turns (turns : List Turn) : Outputs (turns.flatMap Turn.changes) := by
  intro c hc
  rw [← filter_isOutput_turns] at hc
  exact (List.mem_filter.mp hc).2

/-- What is written was no directory. -/
theorem written_ne_directory (h : applyAll t all = some after) (hout : Outputs all)
    {names : List String} (hw : written t all names) : t.kindAt names ≠ some .directory := by
  obtain ⟨c, hc, htouch⟩ := hw
  obtain ⟨template, output, rfl⟩ := exists_output (hout c hc)
  obtain ⟨d, hd⟩ := locate_applyAll h hout hc
  intro hdir
  have hafter := (sameDirs_applyAll h).dirs names hdir
  rw [show names = _ from htouch, Tree.kindAt, Node.kindAt, Tree.locate_eq_node hd] at hafter
  cases hafter

theorem exists_node_of_loadProject {target : Path} (h : (loadProject t target).2 = .ok w) :
    ∃ n, t.node (t.resolve target) = .ok n := by
  rw [loadProject_eq] at h
  obtain ⟨root, hroot, _⟩ := bind_eq_ok h
  unfold rootDescriptor at hroot
  split at hroot
  · cases hroot
  · rename_i p hp
    rcases descriptorPath_eq_ok hp with ⟨⟨entries, hd⟩, _⟩ | ⟨_, rfl⟩
    · exact ⟨_, hd⟩
    · have hread := eq_ok_of_mapError hroot
      obtain ⟨data, hdata⟩ := (Descriptor.placed_of_read hread).file
      rw [root.path_eq (Path.resolved_resolve _ _) hread] at hdata
      exact ⟨_, Tree.node_of_read hdata⟩

theorem Unnoticed.sheltered (h : Unnoticed s o t after turns) (hfit : NamesFit o t after)
    (happly : applyAll t (turns.flatMap Turn.changes) = some after)
    (hload : (Project.load t o).2 = .ok w) :
    Sheltered [".py", ".toml", o.templateExtension] (written t (turns.flatMap Turn.changes))
      (made t after) (Referring t o) t where
  written := h.files
  made := h.directories
  toml := by simp
  resolved := fun _ hp => hp.resolved
  clear := by
    intro q hq
    cases hq with
    | target hk =>
      simp only [Project.load, hk] at hload
      obtain ⟨n, hn⟩ := exists_node_of_loadProject hload
      exact clear_of_node (Path.resolved_resolve _ _) hn h.target
        (fun _ => written_ne_directory happly (outputs_turns turns)) fun _ hd => hd.1
    | entry hk hmem _ _ => exact h.clear hfit (.inl ⟨hk, hmem⟩)
    | reference href hp hmem => exact h.clear hfit (.inr ⟨_, _, href, hp, hmem⟩)
  closed := fun _ _ _ hraw hp hq => .reference hraw hp hq

/-- The target is loaded again, with the same projects. -/
theorem load_again (h : Unnoticed s o t after turns) (hfit : NamesFit o t after)
    (happly : applyAll t (turns.flatMap Turn.changes) = some after)
    (hload : (Project.load t o).2 = .ok w) : ∃ w', (Project.load after o).2 = .ok w' ∧
      List.Forall₂ (Entry.Alike (Link (written t (turns.flatMap Turn.changes)) (made t after)
        (Referring t o) t after)) w.projects w'.projects := by
  have hs := h.sheltered hfit happly hload
  have hstart := Stage.start happly (outputs_turns turns)
  have ho := hstart.overlaid_rest h.files h.directories
  unfold Project.load at hload ⊢
  cases hk : o.kind with
  | solution =>
    simp only [hk] at hload ⊢
    obtain ⟨w', hw', _, hall⟩ := loadSolution_later hs ho h.target
      (fun raw hraw => ⟨resolved_of_listed hraw, h.clear hfit (.inl ⟨hk, hraw⟩)⟩)
      (fun raw p hraw hp hname => .entry hk hraw hp hname) hload
    exact ⟨w', hw', hall⟩
  | project =>
    simp only [hk] at hload ⊢
    obtain ⟨w', hw', _, hall⟩ := loadProject_later hs ho (.target hk) hload
    exact ⟨w', hw', hall⟩

theorem describes_of_load (h : (Project.load t o).2 = .ok w) : ∀ e ∈ w.projects, e.Describes t := by
  intro e he
  unfold Project.load at h
  refine Loaded.describes ⟨o.target, w, ?_, he⟩
  split at h
  · exact .inr h
  · exact .inl h

/-! The whole call. -/

/-- Work has the exit of success when it succeeds and its table, if one is wanted, can be shown. -/
theorem ends_settle_done_iff {verbose : Bool} {seconds : Float} {work : Work RunError Summary} :
    Work.Ends (settle verbose seconds work) t after (.ok .done) ↔
      ∃ summary, Work.Ends work t after (.ok summary) ∧
        (verbose = true → Console.Shown (Text.joinWith ", " summary.projects)) := by
  have hreport : ∀ summary : Summary,
      (verbose = true → Console.Shown (Text.joinWith ", " summary.projects)) →
      ∀ t, Work.Ends (summary.report verbose seconds) t t (.ok ()) := by
    intro summary hnames t
    cases verbose with
    | false => exact Work.ends_pure_iff.mpr ⟨rfl, rfl⟩
    | true => exact ends_report_shown (hnames rfl)
  constructor
  · intro h
    obtain ⟨left, summary, hwork⟩ := ok_of_settle_done h.result
    by_cases hnames : verbose = true → Console.Shown (Text.joinWith ", " summary.projects)
    · obtain ⟨rfl, _⟩ := h.unique (ends_settle_ok hwork (hreport summary hnames))
      exact ⟨summary, hwork, hnames⟩
    · obtain ⟨rfl, _⟩ := Classical.not_imp.mp hnames
      cases (h.unique (ends_settle_not_shown hwork fun hshown => hnames fun _ => hshown)).2
  · rintro ⟨summary, hwork, hnames⟩
    exact ends_settle_ok hwork (hreport summary hnames)

/-- The turns that a call takes: its target is loaded, and all templates have their turns. -/
def Takes (s : Surroundings) (o : Options) (t : Tree) (turns : List Turn) (after : Tree) : Prop :=
  ∃ w, (Project.load t o).2 = .ok w ∧ Run (s.generator o w) (fun _ => False) t
    ((s.generator o w).projects t) turns (turns.flatMap Turn.changes) after (.ok ())

/-- A call takes its turns in one way only. -/
theorem Takes.unique {turns' : List Turn} {after' : Tree} (h : Takes s o t turns after)
    (h' : Takes s o t turns' after') : turns' = turns ∧ after' = after := by
  obtain ⟨w, hload, hrun⟩ := h
  obtain ⟨w', hload', hrun'⟩ := h'
  cases hload.symm.trans hload'
  exact hrun.unique hrun'

/-- A call that succeeds has taken turns. -/
theorem exists_takes {summary : Summary} (hr : s.Repeatable o t after)
    (h : Work.Ends (generate s o) t after (.ok summary)) : ∃ turns, Takes s o t turns after := by
  cases hload : (Project.load t o).2 with
  | error fault =>
    have hfail : Work.Ends (loadTarget o) t t (.error (.load fault)) := by
      rw [ends_loadTarget_iff, hload]
      exact ⟨rfl, rfl⟩
    unfold generate at h
    cases ((Work.ends_bind_error hfail).mp h).2
  | ok w =>
    rw [ends_generate_of_load hload, ends_generate_iff] at h
    obtain ⟨place, _, htemporary⟩ := hr.temporary
    rcases ends_generateProjects (r := s.resolver o) rfl hr.builds htemporary h with
      ⟨turns, changes, hrun⟩ | ⟨_, he⟩
    · have hkeeps : ∀ k, ¬Keeps (s.resolver o) place k := fun _ hk =>
        Bool.false_ne_true (hr.dropped.symm.trans hk.1)
      rw [hrun.written hkeeps] at hrun
      exact ⟨turns, w, hload, hrun.imp fun k hk => hkeeps k hk⟩
    · cases he

theorem summaryOf_alike {R : Path → Path → Prop} (h : List.Forall₂ (Templated.Alike R) ps ps') :
    summaryOf ps' turns = summaryOf ps turns := by
  have hnames : ps'.map (fun p => p.entry.name) = ps.map fun p => p.entry.name := by
    induction h with
    | nil => rfl
    | cons hp _ ih => rw [List.map_cons, List.map_cons, hp.entry.name, ih]
  rw [summaryOf, summaryOf, hnames]

/-- On the tree that it leaves a call takes the same turns, reports the same and changes nothing. -/
theorem takes_again (hr : s.Repeatable o t after) (h : Takes s o t turns after)
    (hu : Unnoticed s o t after turns) (hfit : NamesFit o t after) :
    Takes s o after turns after ∧ ∃ summary,
      Work.Ends (generate s o) t after (.ok summary) ∧
        Work.Ends (generate s o) after after (.ok summary) := by
  obtain ⟨w, hload, hrun⟩ := h
  have happly := hrun.tree
  have hs := hu.sheltered hfit happly hload
  have hd := describes_of_load hload
  obtain ⟨w', hload', hw⟩ := load_again hu hfit happly hload
  have hstart := Stage.start happly (outputs_turns turns)
  have hps : List.Forall₂ _ ((s.generator o w).projects t) ((s.generator o w').projects after) :=
    templated_alike hs (hstart.overlaid_rest hu.files hu.directories)
      (show o.templateExtension ∈ _ by simp) hw hd
  have hwhole : Stage t after (turns.flatMap Turn.changes) [] (turns.flatMap Turn.changes ++ []) t
      after := by rwa [List.append_nil]
  obtain ⟨B, hagain, hlast⟩ := run_again hs (by simp) (by simp) hr hw hd hrun hps
    (fun _ hp => hp) hwhole fun q => hu.asked w q hload
  obtain ⟨_, rfl⟩ := hlast.finished
  have hfirst := ends_generate_iff.mpr hrun.ends
  have hsecond := ends_generate_iff.mpr hagain.ends
  rw [summaryOf_alike hps] at hsecond
  exact ⟨⟨w', hload', hagain⟩, _, (ends_generate_of_load hload).mpr hfirst,
    (ends_generate_of_load hload').mpr hsecond⟩

/-- A call that succeeds takes turns, in one way only. If what it wrote has nothing to do with what
it reads, the same call on the tree that it left succeeds as well: it takes the same turns, writes
the same outputs in the same order, reports the same and leaves that tree as it is. -/
theorem carryOut_again {seconds seconds' : Float}
    (h : Work.Ends (carryOut s o seconds) t after (.ok .done)) (hr : s.Repeatable o t after) :
    ∃ turns, Takes s o t turns after ∧
      (∀ turns' after', Takes s o t turns' after' → turns' = turns ∧ after' = after) ∧
      (Unnoticed s o t after turns → NamesFit o t after →
        Work.Ends (carryOut s o seconds') after after (.ok .done) ∧ Takes s o after turns after ∧
        (generate s o after).result = (generate s o t).result) := by
  obtain ⟨summary, hends, hnames⟩ := ends_settle_done_iff.mp h
  obtain ⟨turns, htakes⟩ := exists_takes hr hends
  refine ⟨turns, htakes, fun _ _ => htakes.unique, fun hu hfit => ?_⟩
  obtain ⟨hagain, _, hfirst, hsecond⟩ := takes_again hr htakes hu hfit
  cases (hfirst.unique hends).2
  exact ⟨ends_settle_done_iff.mpr ⟨summary, hsecond, hnames⟩, hagain,
    hsecond.result.trans hends.result.symm⟩

/-! An example: a template captures an output in a directory that is new. -/

def benchEntries : List (String × Node) :=
  [("pyproject.toml", .file (.ofText "")), ("main.py", .file (.ofText "class A: pass")),
    ("a.nt", .file (.ofText "\x7b% capture 'out/b.txt' %\x7dy\x7b% endcapture %\x7d"))]

def benchWith (more : List (String × Node)) : Tree where
  root := .dir [("tmp", .dir []), ("p", .dir (benchEntries ++ more))]
  here := ⟨.root, []⟩

def bench : Tree := benchWith []

def benchAfter : Tree := benchWith [("out", .dir [("b.txt", .file (.ofText "y"))])]

def benchOptions : Options := { target := ⟨.root, ["p"]⟩, kind := .project }

def benchSurroundings : Surroundings := { temporary := ⟨.root, ["tmp"]⟩ }

def benchFile : Path := ⟨.root, ["p", "pyproject.toml"]⟩

def benchEntry : Entry := { name := "p", file := some benchFile }

def benchGenerator : Generator := benchSurroundings.generator benchOptions ⟨"p", [benchEntry]⟩

def benchUnit : Project.Unit where
  project := "p"
  file := benchFile
  modules := ownModules bench benchOptions.excludes "p" benchFile

def benchModel : Combined := combinedModel {} [benchUnit]

def benchTurns : List Turn := [⟨⟨.root, ["p", "a.nt"]⟩, [⟨"out/b.txt", "y"⟩]⟩]

theorem load_bench : (Project.load bench benchOptions).2 = .ok ⟨"p", [benchEntry]⟩ := by
  have hroot : rootDescriptor bench ⟨.root, ["p"]⟩ = .ok ⟨benchFile, "p", []⟩ := by
    refine rootDescriptor_of_read (p := benchFile) ?_ ?_
    · decide +kernel
    · decide +kernel
  refine loadProject_of_root hroot ?_
  rw [addReferenced]
  simp [readReferences, addReferenced, Descriptor.entry, benchEntry]

theorem prepare_bench :
    Work.Ends (benchGenerator.prepare benchEntry) bench bench (.ok ({}, benchModel)) := by
  have hne : (ownModules bench benchOptions.excludes "p" benchFile).isEmpty = false := by
    decide +kernel
  have hcompile : (benchEntry.compile bench benchOptions.excludes).result = .ok benchUnit :=
    compile_ownModules rfl rfl rfl (List.isEmpty_eq_false_iff.mp hne)
  have hmarked : ((benchSurroundings.resolver benchOptions).markedClasses benchUnit).isEmpty =
      true := by decide +kernel
  have hselected : selected benchGenerator.workspace {} = [benchEntry] := by decide
  exact ends_prepare_alone (r := benchSurroundings.resolver benchOptions) rfl rfl hcompile
    (List.isEmpty_iff.mp hmarked) hselected

theorem projects_bench :
    benchGenerator.projects bench = [⟨benchEntry, [⟨.root, ["p", "a.nt"]⟩]⟩] := by
  decide +kernel

theorem captured_bench : ∃ store, captured benchModel {} bench (.ofModel benchModel)
    ⟨.root, ["p", "a.nt"]⟩ = .ok ([⟨"out/b.txt", "y"⟩], store) := by
  have houtputs : (captured benchModel {} bench (.ofModel benchModel)
      ⟨.root, ["p", "a.nt"]⟩).toOption.map Prod.fst = some [⟨"out/b.txt", "y"⟩] := by
    decide +kernel
  obtain ⟨⟨os, store⟩, hcaptured, hos⟩ := Option.map_eq_some_iff.mp houtputs
  cases hos
  exact ⟨store, eq_ok_of_toOption hcaptured⟩

theorem takes_bench : Takes benchSurroundings benchOptions bench benchTurns benchAfter := by
  obtain ⟨store, hcaptured⟩ := captured_bench
  have happly : applyAll bench (Turn.changes ⟨⟨.root, ["p", "a.nt"]⟩, [⟨"out/b.txt", "y"⟩]⟩) =
      some benchAfter := by rfl
  refine ⟨_, load_bench, ?_⟩
  change Run benchGenerator _ bench (benchGenerator.projects bench) _ _ _ _
  rw [projects_bench]
  exact .project prepare_bench rfl (fun _ hk => absurd hk List.not_mem_nil) (.turn hcaptured happly (.none _ _)) rfl (.done _)

theorem repeatable_bench : benchSurroundings.Repeatable benchOptions bench benchAfter where
  proper := by
    simp only [Tree.Proper, bench, benchWith, benchEntries, List.cons_append, List.nil_append,
      Node.Proper, ProperBelow]
    decide +kernel
  alone := Build.checksAlone_startChild _ rfl rfl
  dropped := rfl
  temporary := ⟨_, _, rfl⟩
  room := by decide +kernel

/-- No name on the way to the output ends in a suffix that is searched for. -/
theorem unfound_bench {W : List String → Prop} (h : ∀ names, W names → names <+: ["p", "out", "b.txt"]) :
    Unfound [".py", ".toml", benchOptions.templateExtension] W := by
  have hall : ∀ name ∈ ["p", "out", "b.txt"], ∀ suffix ∈ [".py", ".toml", ".nt"],
      matchesSuffix suffix name = false := by decide +kernel
  rintro names hw suffix hs ⟨front, last, rfl, hmatch⟩
  have hlast := (h _ hw).subset (List.mem_append_right front (List.mem_singleton.mpr rfl))
  rw [hall last hlast suffix hs] at hmatch
  cases hmatch

theorem written_bench {names : List String}
    (h : written bench (benchTurns.flatMap Turn.changes) names) : names = ["p", "out", "b.txt"] := by
  obtain ⟨c, hc, htouch⟩ := h
  obtain rfl := List.mem_singleton.mp hc
  exact htouch

theorem made_bench {names : List String} (h : made bench benchAfter names) :
    names <+: ["p", "out", "b.txt"] := by
  obtain ⟨w, _, hrun⟩ := takes_bench
  by_cases hw : written bench (benchTurns.flatMap Turn.changes) names
  · rw [written_bench hw]
  · rcases kindAt_applyAll hrun.tree fun c hc ht => hw ⟨c, hc, ht⟩ with hsame | ⟨_, _, c, hc, habove⟩
    · obtain ⟨hnone, hdir⟩ := h
      rw [hsame, hnone] at hdir
      cases hdir
    · obtain rfl := List.mem_singleton.mp hc
      obtain ⟨⟨anchor, onWay⟩, ⟨rfl, hnames⟩, rfl⟩ := habove
      have hcases : onWay = [] ∨ ∃ more, onWay = "p" :: more ∧ (more = [] ∨ more = ["out"]) := by
        have hnames : onWay <+: ["p", "out"] := hnames
        simpa [List.prefix_cons_iff] using hnames
      rcases hcases with rfl | ⟨_, rfl, rfl | rfl⟩ <;> decide

/-- Nothing is named: the project has no references. -/
theorem not_named_bench {q : Path} : ¬Named bench benchOptions q := by
  have hnone : namedBy bench benchFile = [] := by decide +kernel
  have hplace : descriptorPath bench ⟨.root, ["p"]⟩ = .ok benchFile := by decide +kernel
  have htarget : ∀ {raw}, Referring bench benchOptions raw → raw = ⟨.root, ["p"]⟩ := by
    intro raw h
    induction h with
    | target => rfl
    | entry hk => cases hk
    | reference _ hp hq ih =>
      rw [ih, hplace] at hp
      cases hp
      rw [hnone] at hq
      cases hq
  rintro (⟨hk, _⟩ | ⟨raw, p, href, hp, hq⟩)
  · cases hk
  · rw [htarget href, hplace] at hp
    cases hp
    rw [hnone] at hq
    cases hq

theorem asked_bench {source : String}
    (h : bench.readText ⟨.root, ["p", "a.nt"]⟩ = .ok source) :
    Template.asked ⟨[], ({} : Configuration).functions, some ⟨.root, ["p", "a.nt"]⟩, bench⟩
      (.ofModel benchModel) source benchModel = [] := by
  obtain rfl : source = "\x7b% capture 'out/b.txt' %\x7dy\x7b% endcapture %\x7d" := by
    have htext : bench.readText ⟨.root, ["p", "a.nt"]⟩ =
        .ok "\x7b% capture 'out/b.txt' %\x7dy\x7b% endcapture %\x7d" := by decide +kernel
    rw [htext] at h
    exact (Except.ok.inj h).symm
  decide +kernel

theorem unnoticed_bench : Unnoticed benchSurroundings benchOptions bench benchAfter benchTurns where
  files := unfound_bench fun names h => by rw [written_bench h]
  directories := unfound_bench fun names => made_bench
  target := fun h => by cases written_bench h
  asked := by
    intro w q hload hasks
    cases load_bench.symm.trans hload
    change RunAsks benchGenerator bench (benchGenerator.projects bench) q at hasks
    rw [projects_bench] at hasks
    cases hasks with
    | here hready hturns =>
      obtain ⟨rfl, heq⟩ := prepare_bench.unique hready
      cases heq
      cases hturns with
      | here h =>
        obtain ⟨source, hsource, name, hname, _⟩ := h
        rw [asked_bench hsource] at hname
        cases hname
      | later _ _ h => cases h
    | later _ _ _ h => cases h
  named := fun q hq => absurd hq not_named_bench

theorem carryOut_bench : benchSurroundings.Repeatable benchOptions bench benchAfter ∧
    Unnoticed benchSurroundings benchOptions bench benchAfter benchTurns ∧
    Work.Ends (carryOut benchSurroundings benchOptions 1) bench benchAfter (.ok .done) ∧
    Work.Ends (carryOut benchSurroundings benchOptions 2) benchAfter benchAfter (.ok .done) := by
  obtain ⟨w, hload, hrun⟩ := takes_bench
  have hends : Work.Ends (carryOut benchSurroundings benchOptions 1) bench benchAfter (.ok .done) :=
    ends_settle_done_iff.mpr ⟨_, (ends_generate_of_load hload).mpr
      (ends_generate_iff.mpr hrun.ends), fun h => by cases h⟩
  obtain ⟨turns, _, hunique, hagain⟩ := 
    @carryOut_again benchSurroundings benchOptions bench benchAfter 1 2 hends repeatable_bench
  obtain ⟨rfl, _⟩ := hunique _ _ takes_bench
  exact ⟨repeatable_bench, unnoticed_bench, hends,
    (hagain unnoticed_bench fun q hq => absurd hq not_named_bench).1⟩

end Stencil.CommandLine
