import WirelessScan.Proofs.Layers
import WirelessScan.Proofs.TreeGrowth

/-!
# What loading does to the files

Loading looks whether something exists at the path of the configuration. If so, it only reads. If
not, it makes the directories above, writes the default text to the path and reads that.

Between the look and the writing the directories are made, and this can change where the path
leads. A path such as `a/../b` leads nowhere as long as there is no `a`, and to the file `b` once
`a` is there: then the default text replaces what the file held (`Detours`). This needs a `..` in
the path, and it is the only way in which loading changes a file that was there before.
-/

namespace WirelessScan.Config

open FileTree

variable {t t' : FileTree} {path : String} {line : CommandLine} {loc : Location}

/-- The directories above a path are there, after they were made in a tree. -/
inductive Prepares (t : FileTree) (path : String) : FileTree → Prop where
  | none (hparent : Path.parent? path = none) : Prepares t path t
  | made {directory : String} {t₁ : FileTree} (hparent : Path.parent? path = some directory)
      (hmade : t.createDirectories directory = (.ok (), t₁)) : Prepares t path t₁

/-- Nothing exists at a path, but with the directories above made it leads to a file that has been
there all along. -/
def Detours (t : FileTree) (path : String) (loc : Location) : Prop :=
  t.pathExists path = false ∧
    ∃ t' c, Prepares t path t' ∧ t'.locate path = .ok loc ∧ t.content? loc = some c

namespace Prepares

theorem grows (h : Prepares t path t') : t.Grows t' := by
  cases h with
  | none => exact .refl t
  | @made directory _ _ hmade =>
      have hgrows := Grows.createDirectories t directory
      rwa [hmade] at hgrows

theorem unique {t₁ t₂ : FileTree} (h₁ : Prepares t path t₁) (h₂ : Prepares t path t₂) :
    t₁ = t₂ := by
  cases h₁ with
  | none hparent =>
      cases h₂ with
      | none => rfl
      | made hparent' =>
          rw [hparent] at hparent'
          cases hparent'
  | made hparent hmade =>
      cases h₂ with
      | none hparent' =>
          rw [hparent] at hparent'
          cases hparent'
      | made hparent' hmade' =>
          obtain rfl := Option.some.inj (hparent.symm.trans hparent')
          exact (Prod.mk.inj (hmade.symm.trans hmade')).2

/-- With the directories there, only the writing is left. -/
theorem create_eq (h : Prepares t path t') : create t path =
    match t'.writeText path defaultText with
    | .ok t => (.ok (), t)
    | .error _ => (.error (.write path), t') := by
  cases h with
  | none hparent =>
      cases hwrite : t.writeText path defaultText <;> simp only [create, hparent, hwrite]
  | made hparent hmade =>
      cases hwrite : t'.writeText path defaultText <;> simp only [create, hparent, hmade, hwrite]

end Prepares

/-- What can come of making the configuration file. -/
inductive Creates (t : FileTree) (path : String) : Except LoadError Unit × FileTree → Prop where
  | noDirectory {directory : String} {t₁ : FileTree} (hgrows : t.Grows t₁) :
      Creates t path (.error (.createDirectory directory), t₁)
  | noFile {t₁ : FileTree} (hgrows : t.Grows t₁) : Creates t path (.error (.write path), t₁)
  | written {t₁ t₂ : FileTree} (hprepares : Prepares t path t₁)
      (hwrite : t₁.writeText path defaultText = .ok t₂) : Creates t path (.ok (), t₂)

theorem Prepares.creates (h : Prepares t path t') : Creates t path (create t path) := by
  rw [h.create_eq]
  split
  next hwrite => exact .written h hwrite
  next => exact .noFile h.grows

theorem create_creates (t : FileTree) (path : String) : Creates t path (create t path) := by
  cases hparent : Path.parent? path with
  | none => exact (Prepares.none hparent).creates
  | some directory =>
      cases hmade : t.createDirectories directory with
      | mk answer t₁ =>
          cases answer with
          | ok => exact (Prepares.made hparent hmade).creates
          | error fault =>
              have hgrows := Grows.createDirectories t directory
              rw [hmade] at hgrows
              have hcreate : create t path = (.error (.createDirectory directory), t₁) := by
                simp only [create, hparent, hmade]
              rw [hcreate]
              exact .noDirectory hgrows

/-- What can come of loading: the file is there and is read, or it cannot be made, or it is made
and holds the default text. -/
inductive Loads (t : FileTree) (path : String) (line : CommandLine) :
    Except LoadError Config × FileTree → Prop where
  | found (hexists : t.pathExists path = true) : Loads t path line (readFrom t path line, t)
  | failed {e : LoadError} {t₁ : FileTree} (hmissing : t.pathExists path = false)
      (hgrows : t.Grows t₁) (hread : ∀ path, e ≠ .read path) (hparse : ∀ path, e ≠ .parse path)
      (hnot : ∀ t', create t path ≠ (.ok (), t')) : Loads t path line (.error e, t₁)
  | created {t₁ t₂ : FileTree} (hmissing : t.pathExists path = false)
      (hprepares : Prepares t path t₁) (hwrite : t₁.writeText path defaultText = .ok t₂)
      (hcreate : create t path = (.ok (), t₂)) :
      Loads t path line (.ok (({} : Config).override line), t₂)

theorem readFrom_of_parse? {text : String} {c : Config} (hread : t.readText path = .ok text)
    (hparse : parse? text = some c) : readFrom t path line = .ok (c.override line) := by
  simp [readFrom, hread, hparse]

/-- Once the default text is written, it is what is read. -/
theorem readFrom_of_writeText (h : t.writeText path defaultText = .ok t') :
    readFrom t' path line = .ok (({} : Config).override line) :=
  readFrom_of_parse? (readText_of_writeText h) parse?_defaultText

theorem loadFrom_loads (t : FileTree) (path : String) (line : CommandLine) :
    Loads t path line (loadFrom t path line) := by
  unfold loadFrom
  cases hexists : t.pathExists path with
  | true => exact .found hexists
  | false =>
      have hcreates := create_creates t path
      cases hcreate : create t path with
      | mk answer t' =>
          rw [hcreate] at hcreates
          cases hcreates with
          | noDirectory hgrows =>
              exact .failed hexists hgrows (by simp) (by simp) (by simp [hcreate])
          | noFile hgrows =>
              exact .failed hexists hgrows (by simp) (by simp) (by simp [hcreate])
          | written hprepares hwrite =>
              simp only [Bool.false_eq_true, if_false, readFrom_of_writeText hwrite]
              exact .created hexists hprepares hwrite hcreate

/-! ## What becomes of the files -/

theorem not_detours_of_pathExists (h : t.pathExists path = true) : ¬ Detours t path loc := by
  rintro ⟨hmissing, -⟩
  rw [h] at hmissing
  cases hmissing

/-- In a tree no path without a `..` takes a detour. -/
theorem not_detours_of_isTree (htree : t.IsTree) (hcomponents : ".." ∉ Path.components path) :
    ¬ Detours t path loc := by
  rintro ⟨hmissing, t₁, c, hprepares, hlocate, hfile⟩
  have hexists : t.pathExists path = true :=
    pathExists_iff.mpr ⟨loc, hprepares.grows.locate_of_file htree hcomponents hlocate hfile⟩
  rw [hmissing] at hexists
  cases hexists

/-- The path of a detour leads to a file when the text is written, so the writing succeeds. -/
theorem Detours.create (h : Detours t path loc) : ∃ t', create t path = (.ok (), t') := by
  obtain ⟨-, t₁, c, hprepares, hlocate, hfile⟩ := h
  have hnot : t₁.isDirectory loc = false := by
    simp [isDirectory, hprepares.grows.kept (content?_eq_some_iff.mp hfile)]
  refine ⟨t₁.put loc (.file (.text defaultText)), ?_⟩
  rw [hprepares.create_eq, writeText_of_locate hlocate hnot]

/-- Whatever is made, the text is written to the place that the path leads to afterwards. That is a
place where no file was, or the file of a detour. -/
theorem content?_of_writeText {t₁ t₂ : FileTree} (hmissing : t.pathExists path = false)
    (hprepares : Prepares t path t₁) (hwrite : t₁.writeText path defaultText = .ok t₂) :
    ∃ target, t₂.locate path = .ok target ∧
      (∀ loc, t₂.content? loc =
        if loc = target then some (.text defaultText) else t.content? loc) ∧
      (∀ loc, Detours t path loc ↔ loc = target ∧ t.content? loc ≠ none) := by
  obtain ⟨target, rfl, hdirectory, hlocate, hwas⟩ := writeText_eq_ok hwrite
  refine ⟨target, hlocate, fun loc => ?_, fun loc => ⟨?_, ?_⟩⟩
  · rw [content?_put_file (ne_nil_of_not_directory hdirectory), hprepares.grows.content?]
  · rintro ⟨-, t', c, hprepares', hlocate', hfile⟩
    obtain rfl := hprepares.unique hprepares'
    have hcovers := (Covers.put_file hdirectory (.text defaultText)).locate hlocate'
    exact ⟨Except.ok.inj (hcovers.symm.trans hlocate), by simp [hfile]⟩
  · rintro ⟨rfl, hfile⟩
    obtain ⟨c, hc⟩ := Option.ne_none_iff_exists'.mp hfile
    refine ⟨hmissing, t₁, c, hprepares, ?_, hc⟩
    rcases hwas with hold | hfree
    · exact hold
    · rw [← hprepares.grows.content?, content?, hfree] at hc
      cases hc

namespace Loads

variable {r : Except LoadError Config × FileTree}

/-- Directories stay. -/
theorem isDirectory (h : Loads t path line r) (hdirectory : t.isDirectory loc = true) :
    r.2.isDirectory loc = true := by
  cases h with
  | found => exact hdirectory
  | failed _ hgrows => exact hgrows.covers.isDirectory hdirectory
  | created _ hprepares hwrite =>
      obtain ⟨target, rfl, hnot, -⟩ := writeText_eq_ok hwrite
      exact (Covers.put_file hnot _).isDirectory (hprepares.grows.covers.isDirectory hdirectory)

/-- A file keeps what it holds, unless the path takes a detour to it. -/
theorem content? (h : Loads t path line r) {c : Content} (hfile : t.content? loc = some c) :
    (¬ Detours t path loc → r.2.content? loc = some c) ∧
      (Detours t path loc → r.2.content? loc = some (.text defaultText)) := by
  cases h with
  | found hexists =>
      exact ⟨fun _ => hfile, fun hdetours => (not_detours_of_pathExists hexists hdetours).elim⟩
  | failed _ hgrows _ _ hnot =>
      refine ⟨fun _ => ?_, fun hdetours => ?_⟩
      · rw [hgrows.content?, hfile]
      · obtain ⟨t', hcreate⟩ := hdetours.create
        exact (hnot t' hcreate).elim
  | created hmissing hprepares hwrite =>
      obtain ⟨target, -, hcontent, hdetours⟩ := content?_of_writeText hmissing hprepares hwrite
      rw [hcontent, hdetours]
      split
      next hsame =>
        exact ⟨fun hnot => (hnot ⟨hsame, by simp [hfile]⟩).elim, fun _ => rfl⟩
      next hne => exact ⟨fun _ => hfile, fun hdetour => (hne hdetour.1).elim⟩

/-- A new file is the one that the path leads to, where nothing was, with the default text. -/
theorem content?_new (h : Loads t path line r) {c : Content} (hnone : t.content? loc = none)
    (hnew : r.2.content? loc = some c) :
    t.pathExists path = false ∧ r.2.locate path = .ok loc ∧ c = .text defaultText ∧
      r.1 = .ok (({} : Config).override line) := by
  cases h with
  | found =>
      rw [hnone] at hnew
      cases hnew
  | failed _ hgrows =>
      rw [hgrows.content?, hnone] at hnew
      cases hnew
  | created hmissing hprepares hwrite =>
      obtain ⟨target, hlocate, hcontent, -⟩ := content?_of_writeText hmissing hprepares hwrite
      rw [hcontent] at hnew
      split at hnew
      next hsame =>
        cases hnew
        exact ⟨hmissing, hsame ▸ hlocate, rfl, rfl⟩
      next =>
        rw [hnone] at hnew
        cases hnew

/-- If the text can be written, it is what is loaded. -/
theorem of_create (h : Loads t path line r) (hmissing : t.pathExists path = false)
    (hcreate : create t path = (.ok (), t')) : r = (.ok (({} : Config).override line), t') := by
  cases h with
  | found hexists =>
      rw [hmissing] at hexists
      cases hexists
  | failed _ _ _ _ hnot => exact (hnot t' hcreate).elim
  | created _ _ _ hcreated =>
      rw [(Prod.mk.inj (hcreated.symm.trans hcreate)).2]

/-- A file that cannot be read or parsed was there before, and nothing was done. -/
theorem unchanged (h : Loads t path line r) {p : String}
    (herror : r.1 = .error (.read p) ∨ r.1 = .error (.parse p)) : r.2 = t := by
  cases h with
  | found => rfl
  | failed _ _ hread hparse =>
      rcases herror with herror | herror
      · exact (hread p (Except.error.inj herror)).elim
      · exact (hparse p (Except.error.inj herror)).elim
  | created => rcases herror with herror | herror <;> cases herror

end Loads

/-- What was loaded once is loaded again, from the file that is there by then. -/
theorem loadFrom_again {c : Config} (h : loadFrom t path line = (.ok c, t')) :
    loadFrom t' path line = (.ok c, t') := by
  have hread := readFrom_of_loadFrom h
  obtain ⟨text, -, -, htext, -⟩ := readFrom_eq_ok_iff.mp hread
  rw [loadFrom_of_readText htext, hread]

/-- Loading never damages files but by a detour, and can be repeated. Directories stay, and a file
keeps what it holds unless nothing exists at the path and the path leads to that file as soon as the
directories above are made; then the default text replaces it. In a tree this does not happen to
paths without a `..`. A new file is the one at the path, where nothing existed, with the default
text. If it can be made, the default configuration with the command line applied is what is loaded.
What was loaded once is loaded again, and that changes nothing. If the file cannot be read or
parsed, nothing has changed. -/
theorem loading_spares_files (t : FileTree) (path : String) (line : CommandLine) :
    ∃ base, parse? defaultText = some base ∧
      let r := loadFrom t path line
      (∀ loc, t.isDirectory loc = true → r.2.isDirectory loc = true) ∧
      (∀ loc c, t.content? loc = some c →
        (¬ Detours t path loc → r.2.content? loc = some c) ∧
        (Detours t path loc → r.2.content? loc = some (.text defaultText))) ∧
      (t.IsTree → ".." ∉ Path.components path → ∀ loc, ¬ Detours t path loc) ∧
      (∀ loc c, t.content? loc = none → r.2.content? loc = some c →
        t.pathExists path = false ∧ r.2.locate path = .ok loc ∧ c = .text defaultText ∧
          r.1 = .ok (base.override line)) ∧
      (∀ t', t.pathExists path = false → create t path = (.ok (), t') →
        r = (.ok (base.override line), t')) ∧
      (∀ c, r.1 = .ok c → loadFrom r.2 path line = (.ok c, r.2)) ∧
      (∀ p, r.1 = .error (.read p) ∨ r.1 = .error (.parse p) → r.2 = t) := by
  have h := loadFrom_loads t path line
  refine ⟨{}, parse?_defaultText, ?_, ?_, ?_, ?_, ?_, ?_, ?_⟩
  · intro loc hdirectory
    exact h.isDirectory hdirectory
  · intro loc c hfile
    exact h.content? hfile
  · intro htree hcomponents loc
    exact not_detours_of_isTree htree hcomponents
  · intro loc c hnone hnew
    exact h.content?_new hnone hnew
  · intro t' hmissing hcreate
    exact h.of_create hmissing hcreate
  · intro c hok
    exact loadFrom_again (Prod.ext hok rfl)
  · intro p herror
    exact h.unchanged herror

end WirelessScan.Config

namespace WirelessScan.Sample

open FileTree

/-- A configuration file in the working directory. -/
def ownFile : FileTree where
  entries := [(["c.toml"], .file (.text "scan.timeout_ms=1"))]

theorem ownFile_isTree : ownFile.IsTree where
  nested loc name e hentry := by
    cases loc with
    | nil => rfl
    | cons head rest =>
        have hlonger : (rest ++ [name]).isEmpty = false := by cases rest <;> rfl
        simp [ownFile, entry?, List.lookup_cons, hlonger] at hentry

/-- Another configuration file is made in a directory that is not there yet. -/
theorem ownFile_spared :
    ownFile.IsTree ∧ ".." ∉ Path.components "conf/c.toml" ∧
      ownFile.pathExists "conf/c.toml" = false ∧
      (Config.loadFrom ownFile "conf/c.toml" {}).1 = .ok (({} : Config).override {}) ∧
      (Config.loadFrom ownFile "conf/c.toml" {}).2.content? ["c.toml"] =
        some (.text "scan.timeout_ms=1") := by
  have hcomponents : ".." ∉ Path.components "conf/c.toml" := by decide +kernel
  have hmissing : ownFile.pathExists "conf/c.toml" = false := by decide +kernel
  have hcreate : Config.create ownFile "conf/c.toml" =
      (.ok (), (ownFile.put ["conf"] .directory).put ["conf", "c.toml"]
        (.file (.text Config.defaultText))) := by rfl
  obtain ⟨base, hbase, -, hkept, hdetours, -, hcreated, -⟩ :=
    Config.loading_spares_files ownFile "conf/c.toml" {}
  obtain rfl := Option.some.inj (hbase.symm.trans Config.parse?_defaultText)
  refine ⟨ownFile_isTree, hcomponents, hmissing, ?_, ?_⟩
  · exact congrArg Prod.fst (hcreated _ hmissing hcreate)
  · exact (hkept ["c.toml"] _ rfl).1 (hdetours ownFile_isTree hcomponents _)

/-- A path through a missing directory and back leads to the file once the directory is made, and
then its text is lost. -/
theorem ownFile_overwritten :
    ¬ ∀ loc c, ownFile.content? loc = some c →
      (Config.loadFrom ownFile "a/../c.toml" {}).2.content? loc = some c := by
  intro hspared
  have hparent : Path.parent? "a/../c.toml" = some "a/.." := by cbv
  have hmade : ownFile.createDirectories "a/.." = (.ok (), ownFile.put ["a"] .directory) := by cbv
  have hlocate : (ownFile.put ["a"] .directory).locate "a/../c.toml" = .ok ["c.toml"] := by rfl
  have hdetours : Config.Detours ownFile "a/../c.toml" ["c.toml"] :=
    ⟨by decide +kernel, _, .text "scan.timeout_ms=1", .made hparent hmade, hlocate, rfl⟩
  have hloads := Config.loadFrom_loads ownFile "a/../c.toml" {}
  have hlost := (hloads.content? (c := .text "scan.timeout_ms=1") rfl).2 hdetours
  rw [hspared ["c.toml"] (.text "scan.timeout_ms=1") rfl] at hlost
  have hsame : "scan.timeout_ms=1" = Config.defaultText := Content.text.inj (Option.some.inj hlost)
  exact absurd hsame (by decide +kernel)

end WirelessScan.Sample
