import Stencil.Proofs.Files.Refill
import Stencil.Proofs.Generation.Carried

/-!
What a run reports. Its summary counts the templates that were found, names their projects and lists
a path for each output, in the order they were written. Several outputs may go to one location, and
they may spell it differently; the invariant is that at each path that was written lies a file with
what was written last to its location. A new output puts its own text there for all the spellings of
its location, and every other change leaves the files that are there alone.
-/
namespace Stencil.Generation
open Stencil.Files
open Stencil.Project

variable {g : Generator} {t t' after : Tree} {p q : Path} {text : String} {c : Change}
  {ws : List (Path × String)} {names : List String} {d : Data}

/-- A path that a change writes, with its text. -/
def Change.written : Change → Option (Path × String)
  | .output template o => some (outputPath template o, o.content)
  | .kept .. => none

/-- The text that was written last to the location of a path. -/
def lastText (t : Tree) (ws : List (Path × String)) (p : Path) : Option String :=
  (ws.reverse.find? fun w => t.resolve w.1 == t.resolve p).map Prod.snd

theorem lastText_congr (h : t'.here = t.here) : lastText t' ws p = lastText t ws p := by
  have hsame : ∀ q, t'.resolve q = t.resolve q := Tree.resolve_congr h
  simp only [lastText, hsame]

theorem lastText_append_same (h : t.resolve p = t.resolve q) :
    lastText t (ws ++ [(q, text)]) p = some text := by
  simp [lastText, h]

theorem lastText_append_other (h : t.resolve p ≠ t.resolve q) :
    lastText t (ws ++ [(q, text)]) p = lastText t ws p := by
  simp [lastText, Ne.symm h]

/-- At each path that was written lies a file with what was written last to its location. -/
def UpToDate (t : Tree) (ws : List (Path × String)) : Prop :=
  ∀ w ∈ ws, ∃ text, lastText t ws w.1 = some text ∧ t.node w.1 = .ok (.file (.ofText text))

theorem upToDate_nil (t : Tree) : UpToDate t [] := fun _ hw => nomatch hw

/-- A file stays unless its location is written: what is kept comes at a free name. -/
theorem kindAt_file_apply (h : c.apply t = some t') (hd : t.kindAt names = some (.file d))
    (hn : ∀ w ∈ c.written, names ≠ (t.resolve w.1).names) :
    t'.kindAt names = some (.file d) := by
  have hbeside : ¬c.Touches t names := by
    cases c with
    | output template o =>
      exact hn (outputPath template o, o.content) (Option.mem_some_self _)
    | kept parent name node =>
      intro hbelow
      rw [(graft_of_apply h).1.kindAt_eq_none hbelow] at hd
      cases hd
  rcases kindAt_apply h hbeside with hkept | ⟨hnone, _⟩
  · rw [hkept, hd]
  · rw [hd] at hnone
    cases hnone

theorem node_file_apply (h : c.apply t = some t') (hd : t.node p = .ok (.file d))
    (hn : ∀ w ∈ c.written, t.resolve p ≠ t.resolve w.1) : t'.node p = .ok (.file d) := by
  have hplace : ∀ w ∈ c.written, (t.resolve p).names ≠ (t.resolve w.1).names :=
    fun w hw hsame => hn w hw (Tree.names_eq_iff.mp hsame)
  have hstays := kindAt_file_apply h (Tree.kindAt_of_file hd) hplace
  exact (sameDirs_apply h).node_file hd hstays

/-- An output lies at its path. -/
theorem node_of_putOutput {template : Path} {o : Template.Output}
    (h : putOutput t template o = .ok t') :
    t'.node (outputPath template o) = .ok (.file (.ofText o.content)) := by
  obtain ⟨above, _, hw⟩ := exists_of_putOutput h
  exact Tree.node_write hw

/-- An output lies at each path to a file at its location. -/
theorem node_of_same {template : Path} {o : Template.Output}
    (h : Change.apply t (.output template o) = some t') (hd : t.node p = .ok (.file d))
    (hp : t.resolve p = t.resolve (outputPath template o)) :
    t'.node p = .ok (.file (.ofText o.content)) := by
  have hfile := kindAt_putOutput (putOutput_of_apply h)
  rw [← hp] at hfile
  exact (sameDirs_apply h).node_file hd hfile

/-- A change keeps what was written up to date. -/
theorem UpToDate.apply (hu : UpToDate t ws) (h : c.apply t = some t') :
    UpToDate t' (ws ++ c.written.toList) := by
  intro w hw
  rw [lastText_congr (here_apply h)]
  cases c with
  | kept parent name node =>
    rw [Change.written, Option.toList_none, List.append_nil] at hw ⊢
    obtain ⟨text, hlast, hfile⟩ := hu w hw
    exact ⟨text, hlast, node_file_apply h hfile fun _ hnone => nomatch hnone⟩
  | output template o =>
    rw [Change.written, Option.toList_some] at hw ⊢
    rcases List.mem_append.mp hw with hold | hnew
    · obtain ⟨text, hlast, hfile⟩ := hu w hold
      by_cases hsame : t.resolve w.1 = t.resolve (outputPath template o)
      · exact ⟨o.content, lastText_append_same hsame, node_of_same h hfile hsame⟩
      · refine ⟨text, (lastText_append_other hsame).trans hlast, node_file_apply h hfile ?_⟩
        rintro _ ⟨rfl⟩
        exact hsame
    · rw [List.mem_singleton.mp hnew]
      exact ⟨o.content, lastText_append_same rfl, node_of_putOutput (putOutput_of_apply h)⟩

theorem UpToDate.applyAll {changes : List Change} (hu : UpToDate t ws)
    (h : applyAll t changes = some after) :
    UpToDate after (ws ++ changes.filterMap Change.written) := by
  induction changes generalizing t ws with
  | nil =>
    cases h
    rwa [List.filterMap_nil, List.append_nil]
  | cons c rest ih =>
    obtain ⟨mid, hc, hrest⟩ := Option.bind_eq_some_iff.mp h
    have hlast := ih (hu.apply hc) hrest
    rw [List.append_assoc] at hlast
    cases hw : c.written with
    | none => simpa [hw] using hlast
    | some w => simpa [hw] using hlast

/-- A second spelling of a location: both paths are listed, and both lead to the second text. -/
example :
    let pad : Tree := ⟨.dir [("p", .dir [])], ⟨.root, []⟩⟩
    let template : Path := ⟨.root, ["p", "a.nt"]⟩
    let changes : List Change :=
      [.output template ⟨"x.txt", "1"⟩, .output template ⟨"d/../x.txt", "2"⟩]
    ((applyAll pad changes).map fun t => (changes.filterMap Change.written).map fun w =>
      (w.1.names, (t.readText w.1).toOption)) =
      some [(["p", "x.txt"], some "2"), (["p", "d", "..", "x.txt"], some "2")] := by
  decide +kernel

/-- What a turn writes, in order. -/
def Turn.written (turn : Turn) : List (Path × String) :=
  turn.outputs.map fun o => (outputPath turn.template o, o.content)

theorem Turn.files_eq (turn : Turn) : turn.files = turn.written.map Prod.fst := by
  simp only [Turn.files, Turn.written, List.map_map, Function.comp_def]

theorem Turn.filterMap_changes (turn : Turn) :
    turn.changes.filterMap Change.written = turn.written := by
  simp only [Turn.changes, Turn.written, List.filterMap_map, Function.comp_def, Change.written,
    List.filterMap_eq_map']

/-! Runs that succeed. -/

theorem Run.filterMap_written {ps : List Templated} {turns : List Turn} {changes : List Change}
    {res : Except RunError PUnit}
    (h : Run g (fun k => k.isOutput = false) t ps turns changes after res) :
    changes.filterMap Change.written = turns.flatMap Turn.written := by
  have houtputs : changes.filterMap Change.written =
      (changes.filter Change.isOutput).filterMap Change.written := by
    rw [List.filterMap_filter]
    refine List.filterMap_congr fun k _ => ?_
    cases k <;> rfl
  rw [houtputs, h.outputs fun _ hk => hk, List.filterMap_flatMap]
  simp only [Turn.filterMap_changes]

/-- The projects of a workspace with each of their templates, in the order they are found. -/
def Generator.discovered (g : Generator) (t : Tree) : List (Entry × Path) :=
  g.workspace.projects.flatMap fun e =>
    (e.templates t g.options.templateExtension fun _ => false).map (e, ·)

/-- The projects that own a template, in the order of the workspace. -/
def Generator.owners (g : Generator) (t : Tree) : List Entry :=
  g.workspace.projects.filter fun e =>
    !(e.templates t g.options.templateExtension fun _ => false).isEmpty

theorem map_entry_projects (g : Generator) (t : Tree) :
    (g.projects t).map Templated.entry = g.owners t := by
  simp only [Generator.projects, templated, List.filter_map, List.map_map, Function.comp_def,
    List.map_id', Generator.owners]

theorem flatMap_templates_projects (g : Generator) (t : Tree) :
    (g.projects t).flatMap Templated.templates = (g.discovered t).map Prod.snd := by
  unfold Generator.projects templated Generator.discovered
  induction g.workspace.projects with
  | nil => rfl
  | cons e rest ih =>
    rw [List.map_cons, List.filter_cons, List.flatMap_cons, List.map_append, ← ih, List.map_map]
    split
    · simp [Function.comp_def]
    · rename_i hempty
      have hnil : e.templates t g.options.templateExtension (fun _ => false) = [] := by
        simpa using hempty
      rw [hnil]
      rfl

/-- What the summary of a run with some turns says, and that the tree in the end bears it out. -/
structure Reported (g : Generator) (t after : Tree) (turns : List Turn) (s : Summary) : Prop where
  projects : s.projects = (g.owners t).map Entry.name
  templates : s.templates = (g.discovered t).length
  /-- Each template that was found has one turn. -/
  order : turns.map Turn.template = (g.discovered t).map Prod.snd
  /-- A path is listed for each output, in the order of the turns. -/
  files : s.files = (turns.flatMap Turn.written).map Prod.fst
  /-- At each of the paths lies a file with the last text for its location. -/
  written : ∀ p ∈ s.files, ∃ text, lastText t (turns.flatMap Turn.written) p = some text ∧
    after.node p = .ok (.file (.ofText text))

theorem Run.reported {turns : List Turn} {changes : List Change}
    (h : Run g (fun k => k.isOutput = false) t (g.projects t) turns changes after (.ok ())) :
    Reported g t after turns (summaryOf (g.projects t) turns) := by
  have hall := h.all.trans (flatMap_templates_projects g t)
  have hfiles : turns.flatMap Turn.files = (turns.flatMap Turn.written).map Prod.fst := by
    rw [List.map_flatMap, funext Turn.files_eq]
  have hdate := (upToDate_nil t).applyAll h.tree
  rw [List.nil_append, h.filterMap_written] at hdate
  refine ⟨?_, ?_, hall, hfiles, fun p hp => ?_⟩
  · rw [← map_entry_projects, List.map_map]
    rfl
  · simpa [summaryOf] using congrArg List.length hall
  · rw [summaryOf, hfiles] at hp
    obtain ⟨w, hw, rfl⟩ := List.mem_map.mp hp
    have hhere : after.here = t.here := (sameDirs_applyAll h.tree).here
    simpa only [lastText_congr hhere] using hdate w hw

/-- What a resolver leaves where it builds comes at free names. -/
theorem confined_kept {r : Resolver} {b : Build.Builder} {entries : List (String × Node)}
    (hg : g.resolve = r.resolve) (hb : r.Builds b)
    (ht : t.locate r.temporary = .ok (.node names (.dir entries))) :
    g.Confined (fun k => k.isOutput = false) t := by
  refine (confined_resolve hg hb ht).imp ?_
  rintro _ ⟨_, n, node, rfl⟩
  rfl

/-- A run that succeeds reports what it found and what it wrote, and each file that it names has
what was written last to its location. What resolving a configuration leaves is new, as
`confined_kept` says of a resolver that builds where temporary files go; what is there is left
alone. -/
theorem generate_summary (g : Generator) (t : Tree) (s : Summary)
    (hc : g.Confined (fun k => k.isOutput = false) t) (hs : (g.generate t).result = .ok s) :
    ∃ turns changes, Run g (fun k => k.isOutput = false) t (g.projects t) turns changes
        (g.generate t).tree (.ok ()) ∧ Reported g t (g.generate t).tree turns s := by
  have hends := ends_generate_iff.mp (Work.ends_self g.generate t)
  rw [hs] at hends
  rcases hc.run hends with ⟨turns, changes, hrun⟩ | ⟨e, he⟩
  · obtain ⟨_, hsummary⟩ := hends.unique hrun.ends
    cases hsummary
    exact ⟨turns, changes, hrun, hrun.reported⟩
  · cases he

theorem generate_desk_summary :
    deskGenerator.Confined (fun k => k.isOutput = false) desk ∧
    (deskGenerator.generate desk).result = .ok ⟨["p"], 2, [⟨.root, ["p", "b.nt"]⟩]⟩ ∧
    ∃ turns changes, Run deskGenerator (fun k => k.isOutput = false) desk
        (deskGenerator.projects desk) turns changes (deskGenerator.generate desk).tree (.ok ()) ∧
      Reported deskGenerator desk (deskGenerator.generate desk).tree turns
        ⟨["p"], 2, [⟨.root, ["p", "b.nt"]⟩]⟩ := by
  have hc : deskGenerator.Confined (fun k => k.isOutput = false) desk :=
    confined_kept (r := deskResolver) rfl ⟨fun _ _ => rfl, fun _ _ => rfl⟩ rfl
  exact ⟨hc, summary_desk, generate_summary deskGenerator desk _ hc summary_desk⟩

end Stencil.Generation
