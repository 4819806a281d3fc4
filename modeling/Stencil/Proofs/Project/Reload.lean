import Stencil.Proofs.Project.Compiling
import Stencil.Proofs.Project.Located

/-!
Loading and compiling on a tree that was written over. Where the first tree gives a result, the
second one gives the same: the loops go side by side through locations that lead to the same
descriptors, and what is skipped on one side is skipped on the other.
-/
namespace Stencil.Project
open Stencil.Files
open Stencil.Files.Tree (Overlaid Clear Unfound)
open Stencil.Model

variable {suffixes : List String} {W D : List String → Prop} {located : Path → Prop}
  {R S : Path → Path → Prop} {t A B : Tree} {p p' raw target file : Path} {d d' : Descriptor}
  {e e' : Entry} {exclude : String → Bool}

/-- Locations on two trees that lead to descriptors that say the same, or are skipped on both. -/
structure Simulates (A B : Tree) (R : Path → Path → Prop) : Prop where
  read : ∀ p p' d, R p p' → Descriptor.read A p = .ok d →
    ∃ d', p' = p ∧ Descriptor.read B p = .ok d' ∧ d.Alike R d'
  skipped : ∀ p p' e, R p p' → Descriptor.read A p = .error e → e.isLoadError = true →
    ∃ e', Descriptor.read B p' = .error e' ∧ e'.isLoadError = true
  resolved : ∀ p p', R p p' → p.Resolved

/-- Entries that differ in nothing but where their references lead. -/
structure Entry.Alike (R : Path → Path → Prop) (e e' : Entry) : Prop where
  name : e'.name = e.name
  file : e'.file = e.file
  compiles : e'.compiles = e.compiles
  found : ∀ file, e.file = some file → e.compiles = true → R file file
  references : List.Forall₂ R e.references e'.references

theorem Descriptor.Alike.mono (h : d.Alike R d') (hrs : ∀ p p', R p p' → S p p') :
    d.Alike S d' := ⟨h.path, hrs _ _ h.found, h.name, h.references.imp hrs⟩

theorem Entry.Alike.mono (h : e.Alike R e') (hrs : ∀ p p', R p p' → S p p') : e.Alike S e' :=
  ⟨h.name, h.file, h.compiles, fun file hf hc => hrs _ _ (h.found file hf hc),
    h.references.imp hrs⟩

theorem Descriptor.Alike.entry (h : d.Alike R d') : d.entry.Alike R d'.entry where
  name := h.name
  file := congrArg some h.path
  compiles := rfl
  found := by
    rintro file ⟨⟩ _
    exact h.found
  references := h.references

/-! Loading what is referred to. -/

section Loop

variable (h : Simulates A B R)
include h

theorem Simulates.readReferences (name name' : String) {ps ps' : List Path}
    {ds : List Descriptor} (hps : List.Forall₂ R ps ps')
    (hds : (readReferences A name ps).2 = .ok ds) :
    ∃ ds', (Project.readReferences B name' ps').2 = .ok ds' ∧
      List.Forall₂ (Descriptor.Alike R) ds ds' := by
  induction hps generalizing ds with
  | nil =>
    cases hds
    exact ⟨[], rfl, .nil⟩
  | @cons p p' ps ps' hp _ ih =>
    simp only [Project.readReferences] at hds ⊢
    cases hr : Descriptor.read A p with
    | ok d =>
      rw [hr] at hds
      dsimp only at hds
      cases hmore : (Project.readReferences A name ps).2 with
      | error e =>
        rw [hmore] at hds
        cases hds
      | ok more =>
        rw [hmore] at hds
        cases hds
        obtain ⟨d', rfl, hr', hd⟩ := h.read _ _ _ hp hr
        obtain ⟨more', hmore', hall⟩ := ih hmore
        exact ⟨d' :: more', by simp only [hr', hmore']; rfl, .cons hd hall⟩
    | error e =>
      rw [hr] at hds
      dsimp only at hds
      split at hds
      · rename_i he
        obtain ⟨e', hr', he'⟩ := h.skipped _ _ _ hp hr he
        obtain ⟨ds', hds', hall⟩ := ih hds
        exact ⟨ds', by simp only [hr', he', if_true, hds'], hall⟩
      · cases hds

omit h in
private theorem any_alike {ds ds' : List Descriptor} (hds : List.Forall₂ (Descriptor.Alike R) ds ds')
    (p : Path) : ((ds'.map Descriptor.entry).any fun e => e.file == some p) =
      (ds.map Descriptor.entry).any fun e => e.file == some p := by
  induction hds with
  | nil => rfl
  | cons hd _ ih =>
    simp only [List.map_cons, List.any_cons, ih]
    rw [show (Descriptor.entry _).file = (Descriptor.entry _).file from hd.entry.file]

omit h in
private theorem map_path_alike {ds ds' : List Descriptor}
    (hds : List.Forall₂ (Descriptor.Alike R) ds ds') :
    ds'.map Descriptor.path = ds.map Descriptor.path := by
  induction hds with
  | nil => rfl
  | cons hd _ ih => rw [List.map_cons, List.map_cons, ih, hd.path]

/-- Both loops add the same projects. Neither of them comes to its bound, since what has been added
are files of their own. -/
theorem Simulates.addReferenced (limit : Nat) (done : List Entry) (queue : List Descriptor) :
    ∀ (ds ds' queue' : List Descriptor) (limit' : Nat) (es : List Entry),
      done = ds.map Descriptor.entry → List.Forall₂ (Descriptor.Alike R) ds ds' →
      List.Forall₂ (Descriptor.Alike R) queue queue' →
      (∀ d ∈ ds ++ queue, Descriptor.read A d.path = .ok d) →
      (∀ d ∈ ds' ++ queue', Descriptor.read B d.path = .ok d) →
      (ds.map Descriptor.path).Nodup → A.fileCount < limit + ds.length →
      B.fileCount < limit' + ds.length → (addReferenced A limit done queue).2 = .ok es →
      ∃ es', (Project.addReferenced B limit' (ds'.map Descriptor.entry) queue').2 = .ok es' ∧
        List.Forall₂ (Entry.Alike R) es es' := by
  have hentries : ∀ {ds ds' : List Descriptor}, List.Forall₂ (Descriptor.Alike R) ds ds' →
      List.Forall₂ (Entry.Alike R) (ds.map Descriptor.entry) (ds'.map Descriptor.entry) := by
    intro ds ds' hds
    rw [List.forall₂_map_left_iff, List.forall₂_map_right_iff]
    exact hds.imp fun _ _ hd => hd.entry
  fun_induction Project.addReferenced A limit done queue with
  | case1 limit done =>
    intro ds ds' queue' limit' es hdone hds hqueue _ _ _ _ _ hes
    cases hqueue
    cases hes
    rw [hdone, Project.addReferenced]
    exact ⟨_, rfl, hentries hds⟩
  | case2 limit done d rest hany ih =>
    intro ds ds' queue' limit' es hdone hds hqueue hA hB hn hl hl' hes
    obtain ⟨d', rest', hd, hrest, rfl⟩ := List.forall₂_cons_left_iff.mp hqueue
    subst hdone
    rw [Project.addReferenced.eq_def]
    dsimp only
    rw [if_pos (by rw [any_alike hds, hd.path, hany])]
    refine ih ds ds' rest' limit' es rfl hds hrest (fun e he => hA e ?_) (fun e he => hB e ?_) hn hl
      hl' hes
    · simp only [List.mem_append, List.mem_cons] at he ⊢
      exact he.imp id Or.inr
    · simp only [List.mem_append, List.mem_cons] at he ⊢
      exact he.imp id Or.inr
  | case3 done d rest hany =>
    intro ds _ _ _ _ _ _ _ hA _ hn hl _ _
    have := length_le_of_read hn fun d hm => hA d (List.mem_append_left _ hm)
    omega
  | case4 done d rest hany limit lines e he =>
    intro _ _ _ _ _ _ _ _ _ _ _ _ _ hes
    cases hes
  | case5 done d rest hany limit lines found hf more result hmore ih =>
    intro ds ds' queue' limit' es hdone hds hqueue hA hB hn hl hl' hes
    obtain ⟨d', rest', hd, hrest, rfl⟩ := List.forall₂_cons_left_iff.mp hqueue
    subst hdone
    rw [hmore] at ih
    obtain ⟨found', hfound', hall⟩ := h.readReferences d.name d'.name
      hd.references (by rw [hf])
    have hpaths := map_path_alike hds
    have hcount := length_le_of_read (hpaths ▸ hn) fun d hm => hB d (List.mem_append_left _ hm)
    rw [← hds.length_eq] at hcount
    obtain ⟨limit', rfl⟩ : ∃ n, limit' = n + 1 := ⟨limit' - 1, by omega⟩
    obtain ⟨es', hes', halike⟩ := ih (ds ++ [d]) (ds' ++ [d']) (rest' ++ found') limit' es
      (by simp) (List.rel_append hds (.cons hd .nil)) (List.rel_append hrest hall)
      (by
        intro e he
        simp only [List.append_assoc, List.cons_append, List.nil_append, List.mem_append,
          List.mem_cons] at he
        rcases he with he | rfl | he | he
        · exact hA e (List.mem_append_left _ he)
        · exact hA e (by simp)
        · exact hA e (by simp [he])
        · exact read_of_readReferences (by rw [hf]) he)
      (by
        intro e he
        simp only [List.append_assoc, List.cons_append, List.nil_append, List.mem_append,
          List.mem_cons] at he
        rcases he with he | rfl | he | he
        · exact hB e (List.mem_append_left _ he)
        · exact hB e (by simp)
        · exact hB e (by simp [he])
        · exact read_of_readReferences hfound' he)
      (by
        rw [List.map_append, List.nodup_append_comm, List.map_singleton, List.singleton_append,
          List.nodup_cons]
        refine ⟨fun hm => hany ?_, hn⟩
        obtain ⟨e, he, hpath⟩ := List.mem_map.mp hm
        exact List.any_eq_true.mpr ⟨e.entry, List.mem_map_of_mem he, by simp [Descriptor.entry, hpath]⟩)
      (by rw [List.length_append, List.length_singleton]; omega)
      (by rw [List.length_append, List.length_singleton]; omega) hes
    refine ⟨es', ?_, halike⟩
    obtain ⟨lines', hlines⟩ : ∃ lines', Project.readReferences B d'.name d'.references =
        (lines', .ok found') := ⟨_, Prod.ext rfl hfound'⟩
    rw [List.map_append, List.map_singleton] at hes'
    rw [Project.addReferenced, if_neg (by rw [any_alike hds, hd.path]; exact hany), hlines]
    exact hes'

end Loop

/-! Loading a target. -/

/-- What a location leads to decides what becomes of a listed project. -/
theorem entryOf_eq {directory : Path} {l : Listed} {there : Bool}
    (hp : descriptorPath t (t.resolve (directory / l.path)) = .ok p)
    (hx : t.exists p = .ok there) : entryOf t directory l =
      if !there then
        .ok ([], { name := l.name.getD (if isDescriptorName p then p.parent.name else p.name)
                   file := none })
      else if !isDescriptorName p then
        .ok ([], { name := l.name.getD p.stem, file := some p, compiles := false })
      else match Descriptor.read t p with
        | .ok d =>
          .ok ([], { name := l.name.getD d.name, file := some d.path, references := d.references })
        | .error e =>
          if e.isLoadError then
            .ok ([e.message],
              { name := l.name.getD p.parent.name, file := some p, compiles := false })
          else .error (.project e) := by
  unfold entryOf
  rw [hp]
  dsimp only [bind, Except.bind]
  rw [hx]
  rfl

theorem exists_of_entryOf {directory : Path} {l : Listed} {lines : List String}
    (h : entryOf t directory l = .ok (lines, e)) :
    ∃ p there, descriptorPath t (t.resolve (directory / l.path)) = .ok p ∧
      t.exists p = .ok there := by
  unfold entryOf at h
  dsimp only at h
  obtain ⟨p, hp, h⟩ := bind_eq_ok h
  obtain ⟨there, hthere, _⟩ := bind_eq_ok h
  refine ⟨p, there, ?_, ?_⟩
  · split at hp
    · rename_i heq
      cases hp
      exact heq
    · cases hp
  · split at hthere
    · rename_i heq
      cases hthere
      exact heq
    · cases hthere

section Load

variable (hs : Sheltered suffixes W D located t) (ho : Overlaid suffixes W D t B)

theorem Stages.self (hta : Overlaid suffixes W D t A) (ho : Overlaid suffixes W D A B) :
    Stages suffixes W D t A A B B where
  first := hta
  before := .refl _ _ _ _
  lookups := ho
  follows := ho
  after := .refl _ _ _ _
  dirs := fun _ h => h

include hs

/-- Locations that were looked up before, or are looked up now. -/
theorem simulates_links {X Y : Tree} (hst : Stages suffixes W D t X A Y B) :
    Simulates A B fun p p' => Link W D located X Y p p' ∨ Link W D located A B p p' := by
  have hnow := Stages.self (hst.first.trans hst.before) hst.follows
  refine ⟨fun p p' d h hd => ?_, fun p p' e h hd he => ?_, fun p p' h => ?_⟩
  · rcases h with h | h
    · obtain ⟨d', hp, hd', hall⟩ := h.read hs hst hd
      exact ⟨d', hp, hd', hall.mono fun _ _ => Or.inr⟩
    · obtain ⟨d', hp, hd', hall⟩ := h.read hs hnow hd
      exact ⟨d', hp, hd', hall.mono fun _ _ => Or.inr⟩
  · rcases h with ⟨raw, _, h⟩ | ⟨raw, _, h⟩
    · exact h.skipped hs hst hd he
    · exact h.skipped hs hnow hd he
  · rcases h with ⟨raw, _, h⟩ | ⟨raw, _, h⟩
    · exact (hs.clear_path h.resolved h.clear h.early).1
    · exact (hs.clear_path h.resolved h.clear h.early).1

include ho

/-- A location where there is something stands for the same, and one where there is nothing for
nothing. -/
theorem Stands.exists_later (h : Stands W D t B raw p p') :
    (t.exists p = .ok true → p' = p ∧ B.exists p = .ok true) ∧
      (t.exists p = .ok false → B.exists p' = .ok false ∧
        (p' = p ∨ p = raw ∧ p' = inside raw ∧ isDescriptorName raw = false)) := by
  have hst := Stages.self (.refl _ _ _ t) ho
  obtain ⟨hr, hc⟩ := hs.clear_path h.resolved h.clear h.early
  constructor
  · intro hx
    cases t.seen hr with
    | file data hf =>
      obtain ⟨hp, hb⟩ := h.file hs hst hf
      exact ⟨hp, Tree.exists_node hb⟩
    | directory entries hd =>
      obtain ⟨entries', hd'⟩ := ho.node_dir hd
      refine ⟨?_, Tree.exists_node hd'⟩
      rcases descriptorPath_eq_ok h.early with ⟨⟨es, hraw⟩, rfl⟩ | ⟨hdir, rfl⟩
      · obtain ⟨es', hraw'⟩ := ho.node_dir hraw
        exact Except.ok.inj (h.late.symm.trans (descriptorPath_dir hraw'))
      · cases (Tree.isDir_eq_true_iff.mpr ⟨entries, hd⟩).symm.trans hdir
    | missing hm => cases (Tree.exists_fault hm (by decide)).symm.trans hx
    | notDirectory hn => cases (Tree.exists_fault hn (by decide)).symm.trans hx
    | tooLong hl =>
      simp only [Tree.exists, hl] at hx
      cases hx
  · intro hx
    have hsame : ∀ {es}, t.node raw = .ok (.dir es) → p = inside raw → p' = p := by
      rintro es hraw rfl
      obtain ⟨es', hraw'⟩ := ho.node_dir hraw
      exact Except.ok.inj (h.late.symm.trans (descriptorPath_dir hraw'))
    cases t.seen hr with
    | file data hf => cases (Tree.exists_node hf).symm.trans hx
    | directory entries hd => cases (Tree.exists_node hd).symm.trans hx
    | tooLong hl =>
      simp only [Tree.exists, hl] at hx
      cases hx
    | missing hm =>
      refine ⟨Tree.exists_fault (h.missing hs hst hm) (by decide), ?_⟩
      rcases descriptorPath_eq_ok h.early with ⟨⟨es, hraw⟩, hp⟩ | ⟨_, rfl⟩
      · exact Or.inl (hsame hraw hp)
      · rcases descriptorPath_eq_ok h.late with ⟨⟨es, hraw⟩, hp⟩ | ⟨_, hp⟩
        · refine Or.inr ⟨rfl, hp, ?_⟩
          -- A directory that is new does not have the suffix of descriptors.
          rw [Bool.eq_false_iff]
          intro hname
          rcases ho.new _ (Tree.kindAt_of_fault hr hm (by decide)) with hn | ⟨_, hd⟩ | ⟨_, hw⟩
          · cases (Tree.kindAt_of_node hr hraw).symm.trans hn
          · have hne : p.names ≠ [] := by
              intro hnil
              have hdir : t.kindAt p.names = none := Tree.kindAt_of_fault hr hm (by decide)
              rw [hnil] at hdir
              cases hdir
            exact hs.made _ hd _ hs.toml (endsIn_of_isDescriptorName hne hname)
          · exact hc.not_written hw
        · exact Or.inl hp
    | notDirectory hn =>
      have hb := ho.node_notDirectory hr hc hn
      rcases descriptorPath_eq_ok h.early with ⟨⟨es, hraw⟩, hp⟩ | ⟨_, rfl⟩
      · have hp' := hsame hraw hp
        rw [hp']
        exact ⟨Tree.exists_fault hb (by decide), Or.inl rfl⟩
      · have hp' : p' = p := Except.ok.inj
          (h.late.symm.trans (descriptorPath_plain (Tree.isDir_fault hb (by decide))))
        rw [hp']
        exact ⟨Tree.exists_fault hb (by decide), Or.inl rfl⟩

/-- A listed project has the same entry. -/
theorem entryOf_later {directory : Path} {l : Listed} {lines : List String}
    (hr : (t.resolve (directory / l.path)).Resolved)
    (hc : Clear W D (t.resolve (directory / l.path)))
    (hl : ∀ p, descriptorPath t (t.resolve (directory / l.path)) = .ok p →
      isDescriptorName p = true → located (t.resolve (directory / l.path)))
    (h : entryOf t directory l = .ok (lines, e)) :
    ∃ lines' e', entryOf B directory l = .ok (lines', e') ∧
      e.Alike (Link W D located t B) e' := by
  have hst := Stages.self (.refl _ _ _ t) ho
  obtain ⟨p, there, hp, hx⟩ := exists_of_entryOf h
  obtain ⟨p', hp'⟩ := exists_descriptorPath hr hc ho hp
  have hstands : Stands W D t B (t.resolve (directory / l.path)) p p' := ⟨hr, hc, hp, hp'⟩
  have hlookup : descriptorPath B (B.resolve (directory / l.path)) = .ok p' := by
    rw [← hp', Tree.resolve, Tree.resolve, ho.here]
  rw [entryOf_eq hp hx] at h
  obtain ⟨hthere, habsent⟩ := hstands.exists_later hs ho
  cases there with
  | false =>
    obtain ⟨hx', hsame⟩ := habsent hx
    cases h
    refine ⟨_, _, entryOf_eq hlookup hx', ?_, rfl, rfl, fun _ h => (by cases h), .nil⟩
    rcases hsame with rfl | ⟨rfl, rfl, hname⟩
    · rfl
    · dsimp only
      rw [hname, isDescriptorName_inside]
      simp [inside, Path.child, Path.parent, Path.name]
  | true =>
    obtain ⟨rfl, hx'⟩ := hthere hx
    simp only [Bool.not_true, Bool.false_eq_true, if_false] at h
    have heq := entryOf_eq hlookup hx'
    simp only [Bool.not_true, Bool.false_eq_true, if_false] at heq
    cases hname : isDescriptorName p' with
    | false =>
      rw [hname] at h heq
      cases h
      exact ⟨_, _, heq, rfl, rfl, rfl, fun _ _ h => (by cases h), .nil⟩
    | true =>
      simp only [hname, Bool.not_true, Bool.false_eq_true, if_false] at h heq
      have hlink : Link W D located t B p' p' := ⟨_, hl p' hp hname, hstands⟩
      cases hd : Descriptor.read t p' with
      | ok d =>
        rw [hd] at h
        cases h
        obtain ⟨d', _, hd', halike⟩ := hlink.read hs hst hd
        rw [hd'] at heq
        refine ⟨_, _, heq, by rw [halike.name], congrArg some halike.path, rfl, ?_,
          halike.references⟩
        rintro file ⟨⟩ _
        exact halike.found
      | error fault =>
        rw [hd] at h
        dsimp only at h
        split at h
        · rename_i hfault
          cases h
          obtain ⟨fault', hd', hfault'⟩ := hstands.skipped hs hst hd hfault
          rw [hd'] at heq
          dsimp only at heq
          rw [if_pos hfault'] at heq
          exact ⟨_, _, heq, rfl, rfl, rfl, fun _ _ h => (by cases h), .nil⟩
        · cases h

/-- A solution is loaded again when its file is not written. -/
theorem loadSolution_later {w : Workspace} (ht : ¬W (t.resolve target).names)
    (hclear : ∀ raw ∈ listedPlaces t (t.resolve target), raw.Resolved ∧ Clear W D raw)
    (hl : ∀ raw p, raw ∈ listedPlaces t (t.resolve target) → descriptorPath t raw = .ok p →
      isDescriptorName p = true → located raw)
    (h : (loadSolution t target).2 = .ok w) :
    ∃ w', (loadSolution B target).2 = .ok w' ∧ w'.name = w.name ∧
      List.Forall₂ (Entry.Alike (Link W D located t B)) w.projects w'.projects := by
  have hpath : B.resolve target = t.resolve target := Tree.resolve_congr ho.here target
  have hself : t.resolve (t.resolve target) = t.resolve target :=
    (Path.resolved_resolve t.here target).resolve_eq t.here
  simp only [loadSolution, hpath] at h ⊢
  cases hcontent : readSolution t (t.resolve target) >>= solutionContent (t.resolve target) with
  | error fault =>
    rw [hcontent] at h
    cases h
  | ok content =>
    obtain ⟨name, listed⟩ := content
    have hsame : readSolution B (t.resolve target) = readSolution t (t.resolve target) := by
      obtain ⟨v, hv, _⟩ := bind_eq_ok hcontent
      have hread : ∃ s, t.readText (t.resolve target) = .ok s := by
        unfold readSolution at hv
        split at hv
        · cases hv
        · cases hv
        · exact ⟨_, ‹_›⟩
      obtain ⟨s, hs'⟩ := hread
      obtain ⟨data, hdata⟩ := Tree.node_of_readText hs'
      rw [readSolution, readSolution, ho.readText_eq hdata (by rwa [hself])]
    have hplaces : listedPlaces t (t.resolve target) =
        listed.map fun l => t.resolve ((t.resolve target).parent / l.path) := by
      rw [listedPlaces, hcontent]
    rw [hsame, hcontent]
    rw [hcontent] at h
    dsimp only at h ⊢
    rw [hplaces] at hclear hl
    have hentries : ∀ (ls : List Listed) (es : List Entry), (∀ l ∈ ls, l ∈ listed) →
        (entriesOf (entryOf t (t.resolve target).parent) ls).2 = .ok es →
        ∃ es', (entriesOf (entryOf B (t.resolve target).parent) ls).2 = .ok es' ∧
          List.Forall₂ (Entry.Alike (Link W D located t B)) es es' := by
      intro ls
      induction ls with
      | nil =>
        intro es _ hes
        cases hes
        exact ⟨[], rfl, .nil⟩
      | cons l rest ih =>
        intro es hsub hes
        rw [entriesOf_cons] at hes ⊢
        obtain ⟨⟨lines, first⟩, hfirst, hes⟩ := bind_eq_ok hes
        have hmem : t.resolve ((t.resolve target).parent / l.path) ∈
            listed.map fun l => t.resolve ((t.resolve target).parent / l.path) :=
          List.mem_map_of_mem (hsub l (by simp))
        obtain ⟨hr, hc⟩ := hclear _ hmem
        obtain ⟨lines', first', hfirst', halike⟩ :=
          entryOf_later hs ho hr hc (fun p hp hname => hl _ p hmem hp hname) hfirst
        cases hmore : (entriesOf (entryOf t (t.resolve target).parent) rest).2 with
        | error fault => rw [hmore] at hes; cases hes
        | ok more =>
          rw [hmore] at hes
          cases hes
          obtain ⟨more', hmore', hall⟩ := ih more (fun l hl => hsub l (by simp [hl])) hmore
          refine ⟨first' :: more', ?_, .cons halike hall⟩
          rw [hfirst', hmore']
          rfl
    cases hes : (entriesOf (entryOf t (t.resolve target).parent) listed).2 with
    | error fault =>
      rw [show entriesOf (entryOf t (t.resolve target).parent) listed = (_, .error fault) from
        Prod.ext rfl hes] at h
      cases h
    | ok es =>
      rw [show entriesOf (entryOf t (t.resolve target).parent) listed = (_, .ok es) from
        Prod.ext rfl hes] at h
      cases h
      obtain ⟨es', hes', hall⟩ := hentries listed es (fun _ h => h) hes
      rw [show entriesOf (entryOf B (t.resolve target).parent) listed = (_, .ok es') from
        Prod.ext rfl hes']
      exact ⟨_, rfl, rfl, hall⟩

/-- A project is loaded again with all that it refers to. -/
theorem loadProject_later {w : Workspace} (hl : located (t.resolve target))
    (h : (loadProject t target).2 = .ok w) :
    ∃ w', (loadProject B target).2 = .ok w' ∧ w'.name = w.name ∧
      List.Forall₂ (Entry.Alike (Link W D located t B)) w.projects w'.projects := by
  have hst := Stages.self (.refl _ _ _ t) ho
  have hpath : B.resolve target = t.resolve target := Tree.resolve_congr ho.here target
  rw [loadProject_eq] at h
  obtain ⟨root, hroot, h⟩ := bind_eq_ok h
  have hr := hs.resolved _ hl
  have hc := hs.clear _ hl
  unfold rootDescriptor at hroot
  split at hroot
  · cases hroot
  · rename_i p hp
    obtain ⟨p', hp'⟩ := exists_descriptorPath hr hc ho hp
    have hread := eq_ok_of_mapError hroot
    have hlink : Link W D located t B p p' := ⟨_, hl, hr, hc, hp, hp'⟩
    obtain ⟨root', rfl, hread', halike⟩ := hlink.read hs hst hread
    have hroot' : rootDescriptor B target = .ok _ :=
      rootDescriptor_of_read (by rw [hpath, hp']) hread'
    cases hes : (addReferenced t (t.fileCount + 1) [] [root]).2 with
    | error fault => rw [hes] at h; cases h
    | ok es =>
      rw [hes] at h
      cases h
      have hsim : Simulates t B (Link W D located t B) := by
        obtain ⟨h₁, h₂, h₃⟩ := simulates_links hs hst
        refine ⟨fun p p' d hp hd => ?_, fun p p' e hp => h₂ p p' e (.inl hp),
          fun p p' hp => h₃ p p' (.inl hp)⟩
        obtain ⟨d', hpp, hd', hall⟩ := h₁ p p' d (.inl hp) hd
        exact ⟨d', hpp, hd', hall.mono fun _ _ h => h.elim id id⟩
      obtain ⟨es', hes', hall⟩ := hsim.addReferenced (t.fileCount + 1) [] [root] [] [] [root']
        (B.fileCount + 1) es rfl .nil (.cons halike .nil)
        (by simpa using Descriptor.read_path hread) (by simpa using Descriptor.read_path hread')
        List.nodup_nil (by simp) (by simp) hes
      refine ⟨⟨root'.name, es'⟩, ?_, halike.name, hall⟩
      rw [loadProject_eq, hroot']
      change Except.map _ (addReferenced B (B.fileCount + 1) [] [root']).2 = _
      rw [show (addReferenced B (B.fileCount + 1) [] [root']).2 = .ok es' from hes']
      rfl

end Load

/-! Compiling. -/

section Compile

/-- A location that is skipped may have been seen before or not. -/
private theorem visit_skipped {fault : DescriptorError} (exclude : String → Bool)
    (project : String) (limit : Nat) (seen rest : List Path) (hd : Descriptor.read t p = .error fault)
    (hf : fault.isLoadError = true) :
    ∃ seen', (∀ q, usable t q = true → (q ∈ seen' ↔ q ∈ seen)) ∧
      (visit t exclude project limit seen (p :: rest)).result =
        (visit t exclude project limit seen' rest).result := by
  by_cases hp : seen.contains p = true
  · refine ⟨seen, fun _ _ => Iff.rfl, ?_⟩
    rw [visit.eq_def]
    dsimp only
    rw [if_pos hp]
  · refine ⟨p :: seen, fun q hq => ?_, ?_⟩
    · rw [List.mem_cons, or_iff_right]
      rintro rfl
      rw [not_usable_of_error hd] at hq
      cases hq
    · rw [visit.eq_def]
      dsimp only
      rw [if_neg hp]
      simp only [hd, hf, if_true, Report.result_say]

theorem visit_usable {ms : List SourceModule} (project : String) (limit : Nat)
    (seen rest : List Path) (hp : p ∉ seen) (hd : Descriptor.read t p = .ok d)
    (hms : (sourceFiles t exclude d.directory).mapM (readSource t d.directory d.name true) =
      .ok ms) : (visit t exclude project (limit + 1) seen (p :: rest)).result =
      (visit t exclude project limit (p :: seen) (rest ++ d.references)).result.map (ms ++ ·) := by
  rw [visit.eq_def]
  dsimp only
  rw [if_neg (by simpa using hp)]
  simp only [hd, hms]
  split <;> simp

theorem readText_of_readSource {root : Path} {project : String} {referenced : Bool}
    {m : SourceModule} (h : readSource A root project referenced file = .ok m) :
    ∃ text, A.readText file = .ok text := by
  unfold readSource at h
  split at h
  · cases h
  · cases h
  · rename_i text htext
    exact ⟨text, htext⟩

variable (ho : Overlaid suffixes W D A B) (hu : Unfound suffixes W) (hpy : ".py" ∈ suffixes)
include ho hu hpy

/-- A source is read again. -/
theorem readSource_later {root directory : Path} {project : String} {referenced : Bool}
    {m : SourceModule} (hf : file ∈ sourceFiles A exclude directory)
    (h : readSource A root project referenced file = .ok m) :
    readSource B root project referenced file = .ok m := by
  obtain ⟨text, htext⟩ := readText_of_readSource h
  rw [← h, readSource, readSource, htext, ho.readText_found hu hpy (Tree.names_of_mem_find hf)
    (Tree.name_of_mem_find hf) htext]

/-- The sources beside a descriptor are found and read again. -/
theorem sources_later {project : String} {referenced : Bool} {ms : List SourceModule}
    (hp : p.Resolved) {data : Data} (hf : A.node p = .ok (.file data))
    (h : (sourceFiles A exclude p.parent).mapM (readSource A p.parent project referenced) =
      .ok ms) : sourceFiles B exclude p.parent = sourceFiles A exclude p.parent ∧
      (sourceFiles B exclude p.parent).mapM (readSource B p.parent project referenced) =
        .ok ms := by
  have hfiles : sourceFiles B exclude p.parent = sourceFiles A exclude p.parent :=
    ho.find_beside hp hf hpy exclude
  refine ⟨hfiles, ?_⟩
  rw [hfiles]
  obtain ⟨ms', hms', hall⟩ := mapM_related (g := readSource B p.parent project referenced)
    (R := Eq) h fun file hfile m hm => ⟨m, readSource_later ho hu hpy hfile hm, rfl⟩
  rw [List.forall₂_eq_eq_eq] at hall
  rw [hms', hall]

variable (hsim : Simulates A B R)
include hsim

/-- Both loops read the modules of the same projects. What has been read are files of their own, so
that neither of them comes to its bound. -/
theorem Simulates.visit (project : String) (limit : Nat) (seen queue : List Path) :
    ∀ (seen' queue' : List Path) (limit' : Nat) (vs : List Path) (ms : List SourceModule),
      List.Forall₂ R queue queue' → (∀ p ∈ seen, ReadsWell A p) →
      (∀ p, usable A p = true → usable B p = true → (p ∈ seen ↔ p ∈ seen')) →
      vs.Nodup → (∀ p ∈ vs, p ∈ seen ∧ p.Resolved ∧ (∃ data, A.read p = .ok data) ∧
        ∃ data, B.read p = .ok data) →
      A.fileCount < limit + vs.length → B.fileCount < limit' + vs.length →
      (Project.visit A exclude project limit seen queue).result = .ok ms →
      (Project.visit B exclude project limit' seen' queue').result = .ok ms := by
  -- Where both sides read a location, it is a file on both.
  have hfiles : ∀ {p d d'}, p.Resolved → Descriptor.read A p = .ok d →
      Descriptor.read B p = .ok d' → (∃ data, A.read p = .ok data) ∧ ∃ data, B.read p = .ok data := by
    intro p d d' hr hd hd'
    have hA := (Descriptor.placed_of_read hd).file
    have hB := (Descriptor.placed_of_read hd').file
    rw [d.path_eq hr hd] at hA
    rw [d'.path_eq hr hd'] at hB
    exact ⟨hA, hB⟩
  have hcount : ∀ {T : Tree} {vs : List Path} {p : Path}, vs.Nodup → p ∉ vs → p.Resolved →
      (∃ data, T.read p = .ok data) →
      (∀ q ∈ vs, q.Resolved ∧ ∃ data, T.read q = .ok data) → vs.length + 1 ≤ T.fileCount := by
    intro T vs p hn hp hr hf hall
    refine @Tree.length_le_fileCount T (p :: vs) (List.nodup_cons.mpr ⟨hp, hn⟩) ?_ ?_
    · exact List.forall_mem_cons.mpr ⟨hr, fun q hq => (hall q hq).1⟩
    · exact List.forall_mem_cons.mpr ⟨hf, fun q hq => (hall q hq).2⟩
  fun_induction Project.visit A exclude project limit seen queue with
  | case1 limit seen =>
    intro seen' queue' limit' vs ms hq _ _ _ _ _ _ hms
    cases hq
    rw [Project.visit]
    exact hms
  | case2 limit seen p rest hseen ih =>
    intro seen' queue' limit' vs ms hq hw hs hn hv hl hl' hms
    obtain ⟨p', rest', hp, hrest, rfl⟩ := List.forall₂_cons_left_iff.mp hq
    have hmem : p ∈ seen := by simpa using hseen
    cases hd : Descriptor.read A p with
    | ok d =>
      obtain ⟨d', rfl, hd', _⟩ := hsim.read _ _ _ hp hd
      have hmem' := (hs _ (usable_of_read hd) (usable_of_read hd')).mp hmem
      rw [Project.visit.eq_def]
      dsimp only
      rw [if_pos (by simpa using hmem')]
      exact ih seen' rest' limit' vs ms hrest hw hs hn hv hl hl' hms
    | error fault =>
      have hload := hw p hmem fault hd
      obtain ⟨fault', hd', hload'⟩ := hsim.skipped _ _ _ hp hd hload
      obtain ⟨seen'', hsame, heq⟩ := visit_skipped exclude project limit' seen' rest'
        hd' hload'
      rw [heq]
      exact ih seen'' rest' limit' vs ms hrest hw
        (fun q hq hq' => (hs q hq hq').trans (hsame q hq').symm) hn hv hl hl' hms
  | case3 limit seen p rest hseen fault hd hload ih =>
    intro seen' queue' limit' vs ms hq hw hs hn hv hl hl' hms
    obtain ⟨p', rest', hp, hrest, rfl⟩ := List.forall₂_cons_left_iff.mp hq
    rw [Report.result_say] at hms
    obtain ⟨fault', hd', hload'⟩ := hsim.skipped _ _ _ hp hd hload
    obtain ⟨seen'', hsame, heq⟩ := visit_skipped exclude project limit' seen' rest'
      hd' hload'
    rw [heq]
    refine ih seen'' rest' limit' vs ms hrest ?_ (fun q hqA hqB => ?_) hn
      (fun q hq => ⟨List.mem_cons_of_mem _ (hv q hq).1, (hv q hq).2⟩) hl hl' hms
    · refine List.forall_mem_cons.mpr ⟨fun e he => ?_, hw⟩
      cases hd.symm.trans he
      exact hload
    · rw [hsame q hqB, ← hs q hqA hqB, List.mem_cons, or_iff_right]
      rintro rfl
      rw [not_usable_of_error hd] at hqA
      cases hqA
  | case4 limit seen p rest hseen fault hd hload =>
    intro _ _ _ _ _ _ _ _ _ _ _ _ hms
    cases hms
  | case5 seen p rest hseen d hd =>
    intro seen' queue' limit' vs ms hq _ _ hn hv hl _ _
    obtain ⟨p', rest', hp, hrest, rfl⟩ := List.forall₂_cons_left_iff.mp hq
    obtain ⟨d', rfl, hd', _⟩ := hsim.read _ _ _ hp hd
    have hr := hsim.resolved _ _ hp
    have hfresh : p' ∉ vs := fun hm => absurd (hv _ hm).1 (by simpa using hseen)
    have := hcount hn hfresh hr (hfiles hr hd hd').1 fun q hq => ⟨(hv q hq).2.1, (hv q hq).2.2.1⟩
    omega
  | case6 seen p rest hseen d hd limit files fault hfault =>
    intro _ _ _ _ _ _ _ _ _ _ _ _ hms
    cases hms
  | case7 seen p rest hseen d hd limit files own hown more all hempty ih
  | case8 seen p rest hseen d hd limit files own hown more all hempty ih =>
    intro seen' queue' limit' vs ms hq hw hs hn hv hl hl' hms
    obtain ⟨p', rest', hp, hrest, rfl⟩ := List.forall₂_cons_left_iff.mp hq
    obtain ⟨d', rfl, hd', hdd⟩ := hsim.read _ _ _ hp hd
    have hr := hsim.resolved _ _ hp
    have hboth := hfiles hr hd hd'
    have hnew : p' ∉ seen := by simpa using hseen
    have hnew' : p' ∉ seen' := fun hm =>
      hnew ((hs _ (usable_of_read hd) (usable_of_read hd')).mpr hm)
    have hfresh : p' ∉ vs := fun hm => hnew (hv _ hm).1
    have hbound := hcount hn hfresh hr hboth.2 fun q hq => ⟨(hv q hq).2.1, (hv q hq).2.2.2⟩
    obtain ⟨limit', rfl⟩ : ∃ n, limit' = n + 1 := ⟨limit' - 1, by omega⟩
    obtain ⟨data, hdata⟩ := hboth.1
    have hpath : d.path = p' := d.path_eq hr hd
    have hown' : (sourceFiles B exclude d'.directory).mapM
        (readSource B d'.directory d'.name true) = .ok own := by
      have hdir : d.directory = p'.parent := congrArg Path.parent hpath
      have hdir' : d'.directory = p'.parent := congrArg Path.parent (hdd.path.trans hpath)
      rw [hdir', hdd.name]
      have hown : (sourceFiles A exclude d.directory).mapM
        (readSource A d.directory d.name true) = .ok own := hown
      rw [hdir] at hown
      exact (sources_later ho hu hpy hr (Tree.node_of_read hdata) hown).2
    rw [visit_usable project limit' seen' rest' hnew' hd' hown']
    have hall : ∃ later, (Project.visit A exclude project limit (p' :: seen)
        (rest ++ d.references)).result = .ok later ∧ ms = own ++ later := by
      have hms : (Project.visit A exclude project limit (p' :: seen)
        (rest ++ d.references)).result.map (own ++ ·) = .ok ms := hms
      cases hlater : (Project.visit A exclude project limit (p' :: seen)
        (rest ++ d.references)).result with
      | error fault => rw [hlater] at hms; cases hms
      | ok later =>
        rw [hlater] at hms
        cases hms
        exact ⟨later, rfl, rfl⟩
    obtain ⟨later, hlater, rfl⟩ := hall
    rw [ih (p' :: seen') (rest' ++ d'.references) limit' (p' :: vs) later
      (List.rel_append hrest hdd.references)
      (List.forall_mem_cons.mpr ⟨fun e he => (by cases hd.symm.trans he), hw⟩)
      (fun q hqA hqB => by rw [List.mem_cons, List.mem_cons, hs q hqA hqB])
      (List.nodup_cons.mpr ⟨hfresh, hn⟩)
      (List.forall_mem_cons.mpr ⟨⟨by simp, hr, hboth⟩, fun q hq =>
        ⟨List.mem_cons_of_mem _ (hv q hq).1, (hv q hq).2⟩⟩)
      (by rw [List.length_cons]; omega) (by rw [List.length_cons]; omega) hlater]
    rfl

/-- A project that compiles does so again, with the same modules. -/
theorem Simulates.compile {u : Unit} (he : e.Alike R e')
    (hf : ∀ file, e.file = some file → e.compiles = true → file.Resolved ∧ ReadsWell A file ∧
      ∃ data, A.node file = .ok (.file data))
    (h : (e.compile A exclude).result = .ok u) : (e'.compile B exclude).result = .ok u := by
  unfold Entry.compile at h ⊢
  rw [he.file, he.compiles, he.name]
  cases hfile : e.file with
  | none =>
    rw [hfile] at h
    cases h
  | some file =>
    rw [hfile] at h
    dsimp only at h ⊢
    cases hc : e.compiles with
    | false =>
      rw [hc] at h
      cases h
    | true =>
      obtain ⟨hr, hwell, data, hdata⟩ := hf file hfile hc
      simp only [hc, Bool.not_true, Bool.false_eq_true, if_false, Report.result_say] at h ⊢
      split at h
      · cases h
      · rename_i hempty
        split at h
        · cases h
        · rename_i own hown
          obtain ⟨hfiles, hown'⟩ := sources_later ho hu hpy hr hdata hown
          rw [hfiles] at hown'
          rw [hfiles, if_neg hempty, hown']
          rw [Report.result_later, Report.result_map] at h ⊢
          cases hv : (Project.visit A exclude e.name (A.fileCount + 1) [file]
            e.references).result with
          | error fault => rw [hv] at h; cases h
          | ok more =>
            rw [hv] at h
            rw [Simulates.visit ho hu hpy hsim e.name (A.fileCount + 1) [file] e.references [file]
              e'.references (B.fileCount + 1) [] more he.references (by simpa using hwell)
              (fun _ _ _ => Iff.rfl) List.nodup_nil (by simp) (by simp) (by simp) hv]
            exact h

end Compile

section Later

variable {Y : Tree} (hs : Sheltered suffixes W D located t)
include hs

/-- The descriptors that were read in the beginning can be read later. -/
theorem Link.reads (ho : Overlaid suffixes W D t A) (h : Link W D located t Y p p')
    (hd : Descriptor.read t p = .ok d) : ∃ d', Descriptor.read A p = .ok d' := by
  obtain ⟨raw, hloc, h⟩ := h
  obtain ⟨q, hq⟩ := exists_descriptorPath h.resolved h.clear ho h.early
  have hlink : Link W D located t A p q := ⟨raw, hloc, h.resolved, h.clear, h.early, hq⟩
  obtain ⟨d', _, hd', _⟩ := hlink.read hs (Stages.self (.refl _ _ _ t) ho) hd
  exact ⟨d', hd'⟩

variable (hst : Stages suffixes W D t t A Y B) (hpy : ".py" ∈ suffixes)
include hst hpy

/-- What was loaded from a tree compiles on a later one, with the same modules, if it does so in
between. -/
theorem Entry.Alike.compile {u : Unit} (he : e.Alike (Link W D located t Y) e')
    (hd : e.Describes t) (h : (e.compile A exclude).result = .ok u) :
    (e'.compile B exclude).result = .ok u := by
  have hsim := simulates_links hs hst
  refine Simulates.compile hst.follows hs.written hpy hsim (he.mono fun _ _ => Or.inl) ?_ h
  intro file hf hc
  obtain ⟨d, hd, hpath, _⟩ := hd file hf hc
  have hlink := he.found file hf hc
  have hr := hsim.resolved _ _ (.inl hlink)
  obtain ⟨d', hd'⟩ := hlink.reads hs (hst.first.trans hst.before) hd
  obtain ⟨data, hdata⟩ := (Descriptor.placed_of_read hd').file
  rw [d'.path_eq hr hd'] at hdata
  exact ⟨hr, fun e he => (by cases hd'.symm.trans he), data, Tree.node_of_read hdata⟩

end Later

end Stencil.Project
