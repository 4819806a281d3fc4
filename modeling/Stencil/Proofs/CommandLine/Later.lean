import Stencil.Proofs.Configuration.Elsewhere
import Stencil.Proofs.Generation.Rewriting
import Stencil.Proofs.Generation.Uncompiled
import Stencil.Proofs.Project.Reload
import Stencil.Proofs.Template.Triple

/-!
Projects whose turn comes on a later tree. A project that was prepared for its templates is prepared
there in the same way: it compiles to the same modules, its configuration is built in a directory of
another name, and it sees the same model.
-/
namespace Stencil.CommandLine
open Stencil.Files
open Stencil.Files.Tree (Overlaid Refilled)
open Stencil.Generation
open Stencil.Model
open Stencil.Project

variable {s : Surroundings} {o : Settings.Options} {w w' : Workspace} {suffixes : List String}
  {W D : List String → Prop} {located : Path → Prop} {t after A B mid : Tree} {p : Templated}
  {e e' : Entry} {c : Configuration} {m : Combined}

/-- A file that a template asks for when its turn comes: one that it includes, imports or
extends. -/
def Asks (m : Combined) (c : Configuration) (t : Tree) (store : Template.Store) (template p : Path) :
    Prop :=
  ∃ source, t.readText template = .ok source ∧
    ∃ name ∈ Template.asked ⟨[], c.functions, some template, t⟩ store source m,
      Template.fileOf? template.parent name = some p

/-- What a call can be repeated in after it left a tree: builds see nothing but their directory and
are not kept, and there is a directory for them with room for one more. -/
structure Surroundings.Repeatable (s : Surroundings) (o : Settings.Options) (t after : Tree) :
    Prop where
  proper : t.Proper
  alone : ({ s.builder with timeout := o.buildTimeout } : Build.Builder).ChecksAlone
  dropped : o.keepConfigBuild = false
  temporary : ∃ place entries, t.locate s.temporary = .ok (.node place (.dir entries))
  room : (Resolver.freshName after s.temporary).utf8ByteSize ≤ maxNameBytes

/-- The resolver of a call builds with the builder that it finds in place. -/
theorem Surroundings.Repeatable.builds (h : s.Repeatable o t after) :
    (s.resolver o).Builds { s.builder with timeout := o.buildTimeout } :=
  ⟨fun _ _ => rfl, h.alone.quiet⟩

/-- The names in a directory decide what a temporary directory in it is called. -/
theorem freshName_eq (h : Refilled after B) {place : List String} {entries : List (String × Node)}
    (ht : after.locate s.temporary = .ok (.node place (.dir entries))) :
    Resolver.freshName B s.temporary = Resolver.freshName after s.temporary := by
  have hnode : after.node s.temporary = .ok (.dir entries) := by rw [Files.Tree.node, ht]
  simp only [Resolver.freshName, h.namesIn_eq hnode]

/-- An entry whose project has its own file in place. -/
structure Owns (t : Tree) (e : Entry) (file : Path) : Prop where
  file_eq : e.file = some file
  compiles : e.compiles = true
  resolved : file.Resolved
  there : ∃ data, t.node file = .ok (.file data)

theorem exists_owns (hs : Sheltered suffixes W D located t)
    (he : e.Alike (Link W D located t B) e') (hd : e.Describes t) (hel : e.isEligible = true) :
    ∃ file, Owns t e file := by
  obtain ⟨hc, hne⟩ := isEligible_iff.mp hel
  obtain ⟨file, hf⟩ := Option.ne_none_iff_exists'.mp hne
  obtain ⟨d, hd, hpath, _⟩ := hd file hf hc
  obtain ⟨raw, _, hlink⟩ := he.found file hf hc
  have hr := (hs.clear_path hlink.resolved hlink.clear hlink.early).1
  obtain ⟨data, hdata⟩ := (Descriptor.placed_of_read hd).file
  rw [hpath] at hdata
  exact ⟨file, hf, hc, hr, data, Tree.node_of_read hdata⟩

/-- Settings select the same projects. -/
theorem selected_alike {R : Path → Path → Prop} (settings : Settings.Resolved)
    (hw : List.Forall₂ (Entry.Alike R) w.projects w'.projects) :
    List.Forall₂ (Entry.Alike R) (selected w settings) (selected w' settings) := by
  rw [selected_eq, selected_eq]
  refine List.rel_filter (fun e e' he => ?_) hw
  have hiff : Generation.Listed settings e ↔ Generation.Listed settings e' := by
    simp only [Generation.Listed, he.name, he.file, he.compiles]
  exact decide_eq_true_iff.trans (hiff.trans decide_eq_true_iff.symm)

section Prepare

variable (hs : Sheltered suffixes W D located t) (hst : Stages suffixes W D t t A after B)
  (hpy : ".py" ∈ suffixes)
include hs hst hpy

theorem compileAll_later {exclude : String → Bool} {es es' : List Entry}
    {units : List Project.Unit}
    (hall : List.Forall₂ (Entry.Alike (Link W D located t after)) es es')
    (hd : ∀ e ∈ es, e.Describes t) (h : (compileAll A exclude es).2 = .ok units) :
    (compileAll B exclude es').2 = .ok units := by
  rw [compileAll_eq_ok_iff] at h ⊢
  induction hall generalizing units with
  | nil =>
    cases h
    exact .nil
  | cons he _ ih =>
    obtain ⟨u, rest, hu, hrest, rfl⟩ := List.forall₂_cons_left_iff.mp h
    exact .cons (he.compile hs hst hpy (hd _ (by simp)) hu)
      (ih (fun e hm => hd e (by simp [hm])) hrest)

/-- A project that has a configuration has the same one later. -/
theorem configurationOf_later (w' : Workspace) (hr : s.Repeatable o t after) (hfill : Refilled after B)
    (he : e.Alike (Link W D located t after) e') (hd : e.Describes t) (hel : e.isEligible = true)
    {u : Project.Unit} (hu : (e.compile A o.excludes).result = .ok u)
    (h : Work.Ends ((s.generator o w).configurationOf e) A mid (.ok c)) :
    mid = A ∧ Work.Ends ((s.generator o w').configurationOf e') B B (.ok c) := by
  have hbefore := hst.first.trans hst.before
  obtain ⟨file, hown⟩ := exists_owns hs he hd hel
  obtain ⟨_, rfl, own, more, _, _, hread, _⟩ := compile_result hown.file_eq hu
  obtain ⟨data, hdata⟩ := hown.there
  obtain ⟨data', hdata'⟩ := hbefore.exists_file hdata
  obtain ⟨place, entries, htemporary⟩ := hr.temporary
  obtain ⟨_, htA⟩ := hbefore.sameDirs.locate htemporary
  obtain ⟨_, htY⟩ := hst.lookups.sameDirs.locate htemporary
  have hsources : ∀ source ∈ A.find u.file.parent ".py" (s.resolver o).exclude,
      IsName source.name ∧ ∃ text, A.readText source = .ok text := by
    intro source hsource
    constructor
    · rw [hbefore.find_beside hown.resolved hdata hpy] at hsource
      exact hr.proper.name_of_mem_find hsource
    · have hall := exists_mapM_eq_ok_iff.mp ⟨own, mapM_eq_ok_iff.mpr hread.read⟩
      obtain ⟨m, hm⟩ := hall source hsource
      exact readText_of_readSource hm
  have hroom : (Resolver.freshName B (s.resolver o).temporary).utf8ByteSize ≤ maxNameBytes := by
    change (Resolver.freshName B s.temporary).utf8ByteSize ≤ maxNameBytes
    rw [freshName_eq hfill htY]
    exact hr.room
  rcases Work.ends_bind_iff.mp h with ⟨between, found, hresolve, h⟩ | ⟨_, _, hx⟩
  · obtain ⟨rfl, hresolve'⟩ := Resolver.resolve_later hr.builds hr.alone hr.dropped hst.follows
      hs.written hpy hu (he.compile hs hst hpy hd hu) hown.resolved hdata' hsources htA hroom
      hresolve
    have hlater : Work.Ends ((s.generator o w').resolve e') B B (.ok found) := hresolve'
    unfold Generator.configurationOf
    rw [Work.ends_bind_ok hlater]
    cases found with
    | some found =>
      obtain ⟨rfl, hc⟩ := Work.ends_pure_iff.mp h
      exact ⟨rfl, Work.ends_pure_iff.mpr ⟨rfl, hc⟩⟩
    | none =>
      dsimp only at h ⊢
      rw [Work.ends_bind_ok (Work.ends_say_iff.mpr ⟨rfl, rfl⟩)] at h ⊢
      obtain ⟨rfl, hc⟩ := Work.ends_pure_iff.mp h
      exact ⟨rfl, Work.ends_pure_iff.mpr ⟨rfl, hc⟩⟩
  · cases hx

theorem modelOf_later (hw : List.Forall₂ (Entry.Alike (Link W D located t after)) w.projects
      w'.projects) (hd : ∀ e ∈ w.projects, e.Describes t) {settings : Settings.Resolved}
    (h : Work.Ends ((s.generator o w).modelOf settings (selected w settings)) A mid (.ok m)) :
    mid = A ∧ Work.Ends ((s.generator o w').modelOf settings (selected w' settings)) B B (.ok m) := by
  obtain ⟨rfl, hm⟩ := ends_modelOf_iff.mp h
  refine ⟨rfl, ends_modelOf_iff.mpr ⟨rfl, ?_⟩⟩
  change _ = ((compileAll _ o.excludes _).2.mapError _).map _ at hm
  change _ = ((compileAll _ o.excludes _).2.mapError _).map _
  cases hunits : (compileAll mid o.excludes (selected w settings)).2 with
  | error fault =>
    rw [hunits] at hm
    cases hm
  | ok units =>
    have hselected : ∀ e ∈ selected w settings, e.Describes t := by
      intro e he
      rw [selected_eq] at he
      exact hd e (List.mem_filter.mp he).1
    rw [compileAll_later hs hst hpy (selected_alike settings hw) hselected hunits]
    rw [hunits] at hm
    exact hm

/-- A project that is prepared is prepared later as well, on the same model. -/
theorem prepare_later (hr : s.Repeatable o t after) (hfill : Refilled after B)
    (hw : List.Forall₂ (Entry.Alike (Link W D located t after)) w.projects w'.projects)
    (hd : ∀ e ∈ w.projects, e.Describes t) (hp : p ∈ (s.generator o w).projects t)
    (he : p.entry.Alike (Link W D located t after) e')
    (h : Work.Ends ((s.generator o w).prepare p.entry) A mid (.ok (c, m))) :
    mid = A ∧ Work.Ends ((s.generator o w').prepare e') B B (.ok (c, m)) := by
  obtain ⟨hmem, hel⟩ := mem_projects hp
  cases hu : (p.entry.compile A o.excludes).result with
  | error fault =>
    obtain ⟨_, _, fault', _, hstop, _⟩ := ends_generateProject_uncompiled
      (r := s.resolver o) rfl rfl hp hu
    cases (h.unique hstop).2
  | ok u =>
    rcases Work.ends_bind_iff.mp h with ⟨between, c', hc, hrest⟩ | ⟨_, _, hx⟩
    · obtain ⟨rfl, hc'⟩ := configurationOf_later hs hst hpy w' hr hfill he (hd _ hmem) hel
        hu hc
      rw [Work.ends_bind_ok (ends_select_iff.mpr ⟨rfl, rfl⟩)] at hrest
      rcases Work.ends_bind_iff.mp hrest with ⟨seen, m', hm, hlast⟩ | ⟨_, _, hx⟩
      · obtain ⟨rfl, hready⟩ := Work.ends_pure_iff.mp hlast
        cases hready
        obtain ⟨rfl, hm'⟩ := modelOf_later hs hst hpy hw hd hm
        refine ⟨rfl, ?_⟩
        unfold Generator.prepare
        rw [Work.ends_bind_ok hc', Work.ends_bind_ok (ends_select_iff.mpr ⟨rfl, rfl⟩)]
        exact (Work.ends_bind_ok hm').mpr (Work.ends_pure_iff.mpr ⟨rfl, rfl⟩)
      · cases hx
    · cases hx

end Prepare

/-! Templates. -/

/-- Projects with the same templates, whose entries are alike. -/
structure Templated.Alike (R : Path → Path → Prop) (p p' : Templated) : Prop where
  entry : p.entry.Alike R p'.entry
  templates : p'.templates = p.templates

/-- A template that a search for the extension finds somewhere in a tree. -/
def FoundIn (t : Tree) (extension : String) (template : Path) : Prop :=
  ∃ root : Path, root.Resolved ∧ template ∈ t.find root extension fun _ => false

section Templates

variable (hs : Sheltered suffixes W D located t) (ho : Overlaid suffixes W D t after)
  {extension : String} (hx : extension ∈ suffixes)
include hs

theorem foundIn_of_mem (he : e.Alike (Link W D located t after) e') (hd : e.Describes t)
    {template : Path} (h : template ∈ e.templates t extension fun _ => false) :
    FoundIn t extension template := by
  unfold Entry.templates at h
  split at h
  · rename_i d hdir
    split at h
    · rename_i hc
      obtain ⟨file, hf, rfl⟩ := Option.map_eq_some_iff.mp hdir
      obtain ⟨file', hown⟩ := exists_owns hs he hd
        (isEligible_iff.mpr ⟨hc, by rw [hf]; exact Option.some_ne_none _⟩)
      cases hf.symm.trans hown.file_eq
      refine ⟨file.parent, ⟨hown.resolved.anchor, fun hm => hown.resolved.plain ?_⟩, h⟩
      exact List.mem_of_mem_dropLast hm
    · cases h
  · cases h

include ho hx

theorem templates_alike (he : e.Alike (Link W D located t after) e') (hd : e.Describes t) :
    e'.templates after extension (fun _ => false) = e.templates t extension fun _ => false := by
  unfold Entry.templates Entry.directory
  rw [he.file, he.compiles]
  cases hf : e.file with
  | none => rfl
  | some file =>
    cases hc : e.compiles with
    | false => rfl
    | true =>
      obtain ⟨file', hown⟩ := exists_owns hs he hd
        (isEligible_iff.mpr ⟨hc, by rw [hf]; exact Option.some_ne_none _⟩)
      cases hf.symm.trans hown.file_eq
      obtain ⟨data, hdata⟩ := hown.there
      exact ho.find_beside hown.resolved hdata hx _

/-- The same projects have templates, and the same ones. -/
theorem templated_alike {es es' : List Entry}
    (hall : List.Forall₂ (Entry.Alike (Link W D located t after)) es es')
    (hd : ∀ e ∈ es, e.Describes t) :
    List.Forall₂ (Templated.Alike (Link W D located t after))
      (templated t extension (fun _ => false) es)
      (templated after extension (fun _ => false) es') := by
  have hmap : List.Forall₂ (Templated.Alike (Link W D located t after))
      (es.map fun e => ⟨e, e.templates t extension fun _ => false⟩)
      (es'.map fun e => ⟨e, e.templates after extension fun _ => false⟩) := by
    induction hall with
    | nil => exact .nil
    | cons he _ ih =>
      exact .cons ⟨he, templates_alike hs ho hx he (hd _ (by simp))⟩
        (ih fun e hm => hd e (by simp [hm]))
  refine List.rel_filter (fun p p' hp => ?_) hmap
  simp only [hp.templates]

end Templates

section Captured

variable {store : Template.Store} {template : Path} {r : List Template.Output × Template.Store}

/-- A template that asks for nothing that was written captures the same later. -/
theorem captured_later (ht : t.Proper) (ho : Overlaid suffixes W D A B)
    (hu : Files.Tree.Unfound suffixes W) {extension : String} (hx : extension ∈ suffixes)
    (hf : FoundIn t extension template) (hasks : ∀ q, Asks m c A store template q → ¬W q.names)
    (h : captured m c A store template = .ok r) : captured m c B store template = .ok r := by
  obtain ⟨root, hroot, hmem⟩ := hf
  have hr := ht.resolved_of_mem_find hroot hmem
  have hparent : template.parent.Resolved :=
    ⟨hr.anchor, fun hm => hr.plain (List.mem_of_mem_dropLast hm)⟩
  cases hsource : A.readText template with
  | error fault =>
    rw [captured, hsource] at h
    cases h
  | ok source =>
    have hsource' : B.readText template = .ok source :=
      ho.readText_found hu hx (Files.Tree.names_of_mem_find hmem)
        (Files.Tree.name_of_mem_find hmem) hsource
    have hrender := Template.renderOn_later ho [] c.functions hparent
      fun name hn q hq => hasks q ⟨source, hsource, name, hn, hq⟩
    rw [captured, hsource] at h
    rw [captured, hsource']
    simp only [Except.mapError, bind, Except.bind, hrender] at h ⊢
    exact h

end Captured

end Stencil.CommandLine
