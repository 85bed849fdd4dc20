import Mathlib.Data.List.Induction
import WirelessScan.FileTree

/-!
# How file trees change

Two things are done to a tree: directories are made where nothing is, and a text is written to a
file, which may be new. A walk that succeeds in a tree still succeeds afterwards and leads to the
same place (`Covers.locate`), because whatever there was is still there, and is a directory if it
was one.

Making directories adds directories and nothing else (`Grows`), whether it succeeds or not. So a
path that leads to a file afterwards led to it before, unless it goes back by `..` somewhere
(`Grows.locate_of_file`): a directory that was just made holds no files.
-/

namespace WirelessScan

theorem Path.components_empty : Path.components "" = [""] := rfl

namespace FileTree

variable {t t' t'' : FileTree} {loc dest : Location} {cs : List String} {path : String}

/-! ## Entries -/

theorem isDirectory_iff : t.isDirectory loc = true ↔ t.entry? loc = some .directory := by
  simp [isDirectory]

theorem content?_eq_some_iff {c : Content} :
    t.content? loc = some c ↔ t.entry? loc = some (.file c) := by
  rw [content?]
  cases t.entry? loc with
  | none => simp
  | some e => cases e <;> simp

theorem ne_nil_of_not_directory (h : t.isDirectory loc = false) : loc ≠ [] := by
  rintro rfl
  simp [isDirectory, entry?] at h

theorem not_directory_of_free (h : t.entry? loc = none) : t.isDirectory loc = false := by
  simp [isDirectory, h]

/-- What is put at a location stands there, and everything else is as it was. -/
theorem lookup_put (hne : loc ≠ []) (e : FileEntry) (other : Location) :
    FileTree.entry? (t.put loc e) other = if other = loc then some e else t.entry? other := by
  by_cases hroot : other = []
  · subst hroot
    simp [FileTree.entry?, Ne.symm hne]
  · by_cases hsame : other = loc
    · subst hsame
      simp [FileTree.entry?, put, hroot]
    · have hne' : (other == loc) = false := by simpa using hsame
      simp [FileTree.entry?, put, hroot, hsame, List.lookup_cons, hne']

theorem content?_put_file (hne : loc ≠ []) (c : Content) (other : Location) :
    (t.put loc (.file c)).content? other = if other = loc then some c else t.content? other := by
  rw [content?, content?, lookup_put hne]
  by_cases hsame : other = loc <;> simp [hsame]

/-! ## Walks -/

/-- Components lead from one location to another: each is followed from a directory, a name to
something that exists. -/
inductive Leads (t : FileTree) : Location → List String → Location → Prop where
  | done {loc : Location} : Leads t loc [] loc
  | idle {loc dest : Location} {c : String} {cs : List String}
      (hdirectory : t.isDirectory loc = true) (hidle : c = "" ∨ c = ".")
      (hrest : Leads t loc cs dest) : Leads t loc (c :: cs) dest
  | up {loc dest : Location} {cs : List String} (hdirectory : t.isDirectory loc = true)
      (hrest : Leads t loc.dropLast cs dest) : Leads t loc (".." :: cs) dest
  | name {loc dest : Location} {c : String} {cs : List String} {e : FileEntry}
      (hdirectory : t.isDirectory loc = true) (hname : c ≠ "" ∧ c ≠ "." ∧ c ≠ "..")
      (hentry : t.entry? (loc ++ [c]) = some e) (hrest : Leads t (loc ++ [c]) cs dest) :
      Leads t loc (c :: cs) dest

theorem walk_eq_ok_iff : t.walk loc cs = .ok dest ↔ t.Leads loc cs dest := by
  constructor
  · intro h
    induction cs generalizing loc with
    | nil =>
        cases h
        exact .done
    | cons c rest ih =>
        unfold walk at h
        split at h
        · cases h
        next hnot =>
          have hdirectory : t.isDirectory loc = true := by simpa using hnot
          split at h
          next hidle => exact .idle hdirectory hidle (ih h)
          next hbusy =>
            split at h
            next hup =>
              subst hup
              exact .up hdirectory (ih h)
            next hdown =>
              split at h
              · cases h
              next e hentry =>
                exact .name hdirectory ⟨fun hc => hbusy (.inl hc), fun hc => hbusy (.inr hc), hdown⟩
                  hentry (ih h)
  · intro h
    induction h with
    | done => rfl
    | idle hdirectory hidle _ ih => simp [walk, hdirectory, hidle, ih]
    | up hdirectory _ ih => simp [walk, hdirectory, ih]
    | name hdirectory hname hentry _ ih => simp [walk, hdirectory, hname, hentry, ih]

namespace Leads

theorem append {mid : Location} {ds : List String} (h : t.Leads loc cs mid)
    (h' : t.Leads mid ds dest) : t.Leads loc (cs ++ ds) dest := by
  induction h with
  | done => exact h'
  | idle hdirectory hidle _ ih => exact .idle hdirectory hidle (ih h')
  | up hdirectory _ ih => exact .up hdirectory (ih h')
  | name hdirectory hname hentry _ ih => exact .name hdirectory hname hentry (ih h')

/-- Without a `..` each location on the way lies above the next one. -/
theorem isPrefix (h : t.Leads loc cs dest) (hcs : ".." ∉ cs) : loc <+: dest := by
  induction h with
  | done => exact List.prefix_refl _
  | idle _ _ _ ih => exact ih fun hmem => hcs (List.mem_cons_of_mem _ hmem)
  | up => exact (hcs List.mem_cons_self).elim
  | name _ _ _ _ ih =>
      exact (List.prefix_append _ _).trans (ih fun hmem => hcs (List.mem_cons_of_mem _ hmem))

end Leads

theorem locate_eq_ok_iff : t.locate path = .ok dest ↔
    path.isEmpty = false ∧ t.Leads (t.start path) (Path.components path) dest := by
  rw [locate, ← walk_eq_ok_iff]
  cases path.isEmpty <;> simp

theorem pathExists_iff : t.pathExists path = true ↔ ∃ loc, t.locate path = .ok loc := by
  rw [pathExists]
  cases t.locate path <;> simp [Except.toOption]

/-- Whatever is in a tree is in another one too, and is a directory in both or in neither. -/
structure Covers (t' t : FileTree) : Prop where
  workingDirectory : t'.workingDirectory = t.workingDirectory
  entry : ∀ {loc e}, t.entry? loc = some e →
    ∃ e', t'.entry? loc = some e' ∧ (e' = .directory ↔ e = .directory)

namespace Covers

theorem isDirectory (h : t'.Covers t) (hdirectory : t.isDirectory loc = true) :
    t'.isDirectory loc = true := by
  obtain ⟨e', he', hiff⟩ := h.entry (isDirectory_iff.mp hdirectory)
  rw [isDirectory_iff, he', hiff.mpr rfl]

theorem leads (h : t'.Covers t) (hleads : t.Leads loc cs dest) : t'.Leads loc cs dest := by
  induction hleads with
  | done => exact .done
  | idle hdirectory hidle _ ih => exact .idle (h.isDirectory hdirectory) hidle ih
  | up hdirectory _ ih => exact .up (h.isDirectory hdirectory) ih
  | name hdirectory hname hentry _ ih =>
      obtain ⟨e', he', -⟩ := h.entry hentry
      exact .name (h.isDirectory hdirectory) hname he' ih

theorem start (h : t'.Covers t) (path : String) : t'.start path = t.start path := by
  rw [FileTree.start, FileTree.start, h.workingDirectory]

theorem locate (h : t'.Covers t) (hlocate : t.locate path = .ok dest) :
    t'.locate path = .ok dest := by
  rw [locate_eq_ok_iff] at hlocate ⊢
  rw [h.start]
  exact ⟨hlocate.1, h.leads hlocate.2⟩

/-- A file is put where no directory is. -/
theorem put_file (hnot : t.isDirectory loc = false) (c : Content) :
    (t.put loc (.file c)).Covers t where
  workingDirectory := rfl
  entry {other e} hentry := by
    rw [lookup_put (ne_nil_of_not_directory hnot)]
    split
    next hsame =>
      refine ⟨_, rfl, by simp, fun hdirectory => ?_⟩
      rw [hsame, hdirectory, ← isDirectory_iff, hnot] at hentry
      cases hentry
    next => exact ⟨e, hentry, Iff.rfl⟩

end Covers

/-! ## Writing -/

/-- A free place that components name: its directory is there, and its name is one. -/
theorem vacancy_eq_ok {start : Location} (h : t.vacancy start cs = .ok loc) :
    ∃ front name parent, cs = front ++ [name] ∧ loc = parent ++ [name] ∧
      t.Leads start front parent ∧ t.isDirectory parent = true ∧
      (name ≠ "" ∧ name ≠ "." ∧ name ≠ "..") ∧ t.entry? loc = none := by
  unfold vacancy at h
  split at h
  · cases h
  next name hlast =>
    obtain ⟨front, rfl⟩ := List.getLast?_eq_some_iff.mp hlast
    rw [List.dropLast_concat] at h
    cases hwalk : t.walk start front with
    | error fault =>
        rw [hwalk] at h
        cases h
    | ok parent =>
        simp only [hwalk, bind, Except.bind] at h
        split at h
        · cases h
        next hnot =>
          split at h
          · cases h
          next hname =>
            split at h
            · cases h
            next hentry =>
              cases h
              refine ⟨front, name, parent, rfl, rfl, walk_eq_ok_iff.mp hwalk, by simpa using hnot,
                ?_, hentry⟩
              exact ⟨fun hc => hname (.inl hc), fun hc => hname (.inr (.inl hc)),
                fun hc => hname (.inr (.inr hc))⟩

/-- A text is written where no directory is: in place of what the path led to, or at a free place
to which it leads from then on. -/
theorem writeText_eq_ok {s : String} (h : t.writeText path s = .ok t') :
    ∃ loc, t' = t.put loc (.file (.text s)) ∧ t.isDirectory loc = false ∧
      t'.locate path = .ok loc ∧ (t.locate path = .ok loc ∨ t.entry? loc = none) := by
  unfold writeText openFile at h
  cases hlocate : t.locate path with
  | ok loc =>
      cases hdirectory : t.isDirectory loc with
      | true => simp [hlocate, hdirectory, bind, Except.bind] at h
      | false =>
          simp only [hlocate, hdirectory, bind, Except.bind, pure, Except.pure, Bool.false_eq_true,
            if_false, Except.ok.injEq] at h
          subst h
          exact ⟨loc, rfl, hdirectory, (Covers.put_file hdirectory _).locate hlocate,
            .inl rfl⟩
  | error fault =>
      cases hvacancy : t.vacancy (t.start path) (Path.components path) with
      | error fault' => simp [hlocate, hvacancy, Except.map, bind, Except.bind] at h
      | ok loc =>
          simp only [hlocate, hvacancy, Except.map, bind, Except.bind, pure, Except.pure,
            Except.ok.injEq] at h
          subst h
          obtain ⟨front, name, parent, hcomponents, hloc, hleads, hparent, hname, hentry⟩ :=
            vacancy_eq_ok hvacancy
          have hdirectory := not_directory_of_free hentry
          have hcovers := Covers.put_file hdirectory (.text s)
          have hnonempty : path.isEmpty = false := by
            rw [Bool.eq_false_iff]
            intro hempty
            rw [String.isEmpty_iff.mp hempty, Path.components_empty] at hcomponents
            exact hname.1 (by simpa using (congrArg List.getLast? hcomponents).symm)
          refine ⟨loc, rfl, hdirectory, ?_, .inr hentry⟩
          rw [locate_eq_ok_iff, hcovers.start, hcomponents]
          refine ⟨hnonempty, (hcovers.leads hleads).append ?_⟩
          refine .name (e := .file (.text s)) (hcovers.isDirectory hparent) hname ?_ ?_
          · rw [← hloc, lookup_put (ne_nil_of_not_directory hdirectory), if_pos rfl]
          · rw [← hloc]
            exact .done

/-- A file that a path leads to can be written. -/
theorem writeText_of_locate (hlocate : t.locate path = .ok loc)
    (hnot : t.isDirectory loc = false) (s : String) :
    t.writeText path s = .ok (t.put loc (.file (.text s))) := by
  simp [writeText, openFile, hlocate, hnot, bind, Except.bind, pure, Except.pure]

/-- What was written is read back. -/
theorem readText_of_writeText {s : String} (h : t.writeText path s = .ok t') :
    t'.readText path = .ok s := by
  obtain ⟨loc, rfl, hdirectory, hlocate, -⟩ := writeText_eq_ok h
  have hentry : FileTree.entry? (t.put loc (.file (.text s))) loc = some (.file (.text s)) := by
    rw [lookup_put (ne_nil_of_not_directory hdirectory), if_pos rfl]
  simp [readText, hlocate, hentry, bind, Except.bind, pure, Except.pure]

/-! ## Making directories -/

/-- A tree has everything that another one has, and nothing besides but directories. -/
structure Grows (t t' : FileTree) : Prop where
  workingDirectory : t'.workingDirectory = t.workingDirectory
  kept : ∀ {loc e}, t.entry? loc = some e → t'.entry? loc = some e
  added : ∀ {loc}, t.entry? loc = none → t'.entry? loc = none ∨ t'.entry? loc = some .directory

namespace Grows

theorem refl (t : FileTree) : t.Grows t :=
  ⟨rfl, id, .inl⟩

theorem trans (h : t.Grows t') (h' : t'.Grows t'') : t.Grows t'' where
  workingDirectory := h'.workingDirectory.trans h.workingDirectory
  kept hentry := h'.kept (h.kept hentry)
  added hentry := by
    rcases h.added hentry with hnone | hdirectory
    · exact h'.added hnone
    · exact .inr (h'.kept hdirectory)

theorem put_directory (hfree : t.entry? loc = none) : t.Grows (t.put loc .directory) := by
  have hne : loc ≠ [] := ne_nil_of_not_directory (not_directory_of_free hfree)
  refine ⟨rfl, fun {other e} hentry => ?_, fun {other} hentry => ?_⟩
  · rw [lookup_put hne, if_neg, hentry]
    rintro rfl
    rw [hfree] at hentry
    cases hentry
  · rw [lookup_put hne]
    split
    · exact .inr rfl
    · exact .inl hentry

theorem createDirectory (h : t.createDirectory path = .ok t') : t.Grows t' := by
  unfold FileTree.createDirectory at h
  split at h
  · cases h
  · cases hvacancy : t.vacancy (t.start path)
        ((Path.components path).reverse.dropWhile (· == "")).reverse with
    | error fault =>
        simp [hvacancy, bind, Except.bind] at h
    | ok loc =>
        simp only [hvacancy, bind, Except.bind, pure, Except.pure, Except.ok.injEq] at h
        subst h
        obtain ⟨-, -, -, -, -, -, -, -, hfree⟩ := vacancy_eq_ok hvacancy
        exact put_directory hfree

/-- However far the making of directories gets, the tree only grows. -/
theorem createDirectoriesWithin (fuel : Nat) (t : FileTree) (path : String) :
    t.Grows (FileTree.createDirectoriesWithin fuel t path).2 := by
  induction fuel generalizing t path with
  | zero => exact .refl t
  | succ fuel ih =>
      simp only [FileTree.createDirectoriesWithin]
      split
      · exact .refl t
      · split
        next hmade => exact createDirectory hmade
        · split
          · exact .refl t
          next parent _ =>
            have habove := ih t parent
            split
            next hfailed => simpa [hfailed] using habove
            next t₁ hdone =>
              rw [hdone] at habove
              split
              next hmade => exact habove.trans (createDirectory hmade)
              · split <;> exact habove
        · split <;> exact .refl t

theorem createDirectories (t : FileTree) (path : String) :
    t.Grows (t.createDirectories path).2 :=
  createDirectoriesWithin (path.length + 1) t path

theorem covers (h : t.Grows t') : t'.Covers t where
  workingDirectory := h.workingDirectory
  entry hentry := ⟨_, h.kept hentry, Iff.rfl⟩

theorem content? (h : t.Grows t') (loc : Location) : t'.content? loc = t.content? loc := by
  cases hentry : t.entry? loc with
  | some e => rw [FileTree.content?, FileTree.content?, h.kept hentry, hentry]
  | none =>
      rw [FileTree.content?, FileTree.content?, hentry]
      rcases h.added hentry with hnone | hdirectory
      · rw [hnone]
      · rw [hdirectory]

end Grows

/-- Whatever exists stands in a directory. -/
structure IsTree (t : FileTree) : Prop where
  nested : ∀ loc name e, t.entry? (loc ++ [name]) = some e → t.isDirectory loc = true

/-- All that lies above something that exists is a directory. -/
theorem IsTree.isDirectory_of_isPrefix (h : t.IsTree) {e : FileEntry}
    (hentry : t.entry? dest = some e) (habove : loc <+: dest) (hne : loc ≠ dest) :
    t.isDirectory loc = true := by
  induction dest using List.reverseRecOn generalizing e with
  | nil => exact (hne (List.prefix_nil.mp habove)).elim
  | append_singleton front name ih =>
      have hfront : t.isDirectory front = true := h.nested front name e hentry
      rcases List.prefix_concat_iff.mp habove with heq | hfurther
      · exact (hne heq).elim
      · by_cases hsame : loc = front
        · exact hsame ▸ hfront
        · exact ih (isDirectory_iff.mp hfront) hfurther hsame

/-- In a grown tree, components without a `..` lead to a file of the old tree only if they led
there before: on the way there can be no directory that is new. -/
theorem Leads.of_grows {c : Content} (htree : t.IsTree) (hgrows : t.Grows t')
    (hleads : t'.Leads loc cs dest) (hcs : ".." ∉ cs) (hfile : t.entry? dest = some (.file c)) :
    t.Leads loc cs dest := by
  have hdirectory {loc : Location} (habove : loc <+: dest) (hgrown : t'.isDirectory loc = true) :
      t.isDirectory loc = true := by
    refine htree.isDirectory_of_isPrefix hfile habove ?_
    rintro rfl
    rw [isDirectory_iff, hgrows.kept hfile] at hgrown
    cases hgrown
  induction hleads with
  | done => exact .done
  | idle hgrown hidle hrest ih =>
      have hcs' := fun hmem => hcs (List.mem_cons_of_mem _ hmem)
      exact .idle (hdirectory (hrest.isPrefix hcs') hgrown) hidle (ih hcs' hfile hdirectory)
  | up => exact (hcs List.mem_cons_self).elim
  | @name loc dest name rest e hgrown hname hentry hrest ih =>
      have hcs' := fun hmem => hcs (List.mem_cons_of_mem _ hmem)
      have habove : loc ++ [name] <+: dest := hrest.isPrefix hcs'
      have hold : ∃ e, t.entry? (loc ++ [name]) = some e := by
        by_cases hsame : loc ++ [name] = dest
        · exact ⟨_, hsame ▸ hfile⟩
        · exact ⟨_, isDirectory_iff.mp (htree.isDirectory_of_isPrefix hfile habove hsame)⟩
      obtain ⟨e', he'⟩ := hold
      exact .name (hdirectory ((List.prefix_append _ _).trans habove) hgrown) hname he'
        (ih hcs' hfile hdirectory)

theorem Grows.locate_of_file {c : Content} (hgrows : t.Grows t') (htree : t.IsTree)
    (hcomponents : ".." ∉ Path.components path) (hlocate : t'.locate path = .ok loc)
    (hfile : t.content? loc = some c) : t.locate path = .ok loc := by
  rw [locate_eq_ok_iff, hgrows.covers.start] at hlocate
  rw [locate_eq_ok_iff]
  exact ⟨hlocate.1, hlocate.2.of_grows htree hgrows hcomponents (content?_eq_some_iff.mp hfile)⟩

end FileTree

end WirelessScan
