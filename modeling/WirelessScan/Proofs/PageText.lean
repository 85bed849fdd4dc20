import WirelessScan.Program.Page
import WirelessScan.Proofs.RoundTrip

/-!
# The text of the pages

What is printed of a page is described here by its lines: which column of a line shows what of a
network, and which lines a table has. The functions that print are right about every page if their
text is the described one (`prints_iff`). The JSON of a result set is read back as that set.
-/

namespace WirelessScan

open Json (Collects Reads Reader RecordField readArray readUInt32)

/-! ## Result sets are read back -/

namespace ResultSet

/-- The fields of a result set as far as they have been read. -/
structure Draft where
  buckets : Option UInt32 := none
  detections : Option (List Detection) := none

/-- The fields of a written result set. -/
def Draft.fields : List (RecordField Draft) := [
  { name := "buckets_scanned"
    isSet := (·.buckets.isSome)
    read := fun d cs => do
      let (a, cs) ← readUInt32 cs
      return ({ d with buckets := some a }, cs) },
  { name := "results"
    isSet := (·.detections.isSome)
    read := fun d cs => do
      let (a, cs) ← readArray Detection.reader cs
      return ({ d with detections := some a }, cs) }]

/-- The result set, provided that no field is missing. -/
def Draft.finish (d : Draft) : Option ResultSet := do
  return { buckets := ← d.buckets, detections := ← d.detections }

/-- Reads a result set. -/
def reader : Reader ResultSet :=
  Json.readRecord Draft.fields {} Draft.finish

/-- A result set is read from its written form. -/
theorem reads_toJson (r : ResultSet) : Reads reader r.toJson r := by
  have hdetections : Reads (readArray Detection.reader) (.array (r.detections.map Detection.toJson))
      r.detections := by
    apply Reads.array
    rw [List.forall₂_map_left_iff, List.forall₂_same]
    intro d _
    exact d.reads_toJson
  apply Reads.record
  case h =>
    apply Collects.field rfl rfl
      ((Reads.uint32 r.buckets).into _ fun (t : Draft) a => { t with buckets := some a })
    apply Collects.field rfl rfl
      (hdetections.into _ fun (t : Draft) a => { t with detections := some a })
    exact Collects.done
  case hfinish => rfl

end ResultSet

/-- A value that is read is also read from a line of its own. -/
theorem Json.Reads.read_line {α : Type} {reader : Reader α} {v : Json.Value} {a : α}
    (h : Reads reader v a) (layout : Json.Layout) :
    Json.read reader (v.text layout ++ "\n") = .ok a := by
  have hreads := h layout 0 [] ['\n'] Json.blanks_nil (.inr (.inr (.inr rfl)))
  rw [List.nil_append] at hreads
  have hline : (v.text layout ++ "\n").toList = v.write layout 0 ++ ['\n'] := by
    rw [String.toList_append, Json.Value.text, String.toList_ofList]
    rfl
  rw [Json.read, hline, hreads]
  rfl

namespace Page

/-! ## What stands in a line -/

/-- The name under which a network is printed: its own, unless that is empty. -/
inductive Titled : (ssid name : String) → Prop where
  | own {ssid : String} (hnamed : ssid ≠ "") : Titled ssid ssid
  | hidden : Titled "" "<hidden>"

/-- A text, filled up by blanks on its right to a column of a width. It is not cut if it is longer
than the column. -/
def FlushLeft (width : Nat) (s column : String) : Prop :=
  ∃ blanks : Nat, s.length + blanks = max width s.length ∧
    column = s ++ .ofList (List.replicate blanks ' ')

/-- A text, filled up by blanks on its left to a column of a width. -/
def FlushRight (width : Nat) (s column : String) : Prop :=
  ∃ blanks : Nat, s.length + blanks = max width s.length ∧
    column = .ofList (List.replicate blanks ' ') ++ s

/-- A line of a table: four columns with a blank between them. -/
def IsRow (name bssid frequency signal line : String) : Prop :=
  ∃ first second third fourth, FlushLeft 32 name first ∧ FlushLeft 17 bssid second ∧
    FlushRight 6 frequency third ∧ FlushRight 6 signal fourth ∧
    line = first ++ " " ++ second ++ " " ++ third ++ " " ++ fourth

/-- A line of a table shows a network. -/
def Lists (d : Detection) (line : String) : Prop :=
  ∃ name, Titled d.ssid name ∧ IsRow name d.bssid (toString d.frequency) (toString d.signal) line

/-- A line announces a network that was reported before the table. -/
def Announces (d : Detection) (line : String) : Prop :=
  ∃ name, Titled d.ssid name ∧
    line = "+ " ++ name ++ " " ++ d.bssid ++ " " ++ toString d.frequency ++ " MHz"

/-- The text of some lines. -/
def unlines (lines : List String) : String :=
  String.join (lines.map (· ++ "\n"))

/-- The lines of a table: a heading, one for each network in order, and how many they are. -/
def Tabulates (r : ResultSet) (lines : List String) : Prop :=
  ∃ top rows, IsRow "SSID" "BSSID" "MHz" "dBm" top ∧ List.Forall₂ Lists r.detections rows ∧
    lines = top :: rows ++ [toString rows.length ++ " networks"]

/-- What is printed of a page. -/
inductive Prints : Page → String → Prop where
  | text (s : String) : Prints (.text s) s
  | fullResult {d : Detection} {line : String} (hannounces : Announces d line) :
      Prints (.fullResult d) (line ++ "\n")
  | heading (cycle cycles : UInt32) :
      Prints (.heading cycle cycles)
        ("── cycle " ++ toString cycle ++ "/" ++ toString cycles ++ " ──\n")
  | table {r : ResultSet} {lines : List String} (htabulates : Tabulates r lines) :
      Prints (.table r) (unlines lines)
  | json {r : ResultSet} {s : String} (hpretty : s = r.toJson.text .pretty ++ "\n")
      (hread : Json.read ResultSet.reader s = .ok r) : Prints (.json r) s

/-! ## Pages one by one -/

theorem render_fullResult (d : Detection) : render (.fullResult d) =
    "+ " ++ displayName d.ssid ++ " " ++ d.bssid ++ " " ++ toString d.frequency ++ " MHz\n" :=
  rfl

theorem render_heading (cycle cycles : UInt32) : render (.heading cycle cycles) =
    "── cycle " ++ toString cycle ++ "/" ++ toString cycles ++ " ──\n" :=
  rfl

theorem render_table (r : ResultSet) : render (.table r) =
    row "SSID" "BSSID" "MHz" "dBm" ++ String.join (r.detections.map rowOf) ++
      (toString r.size ++ " networks\n") :=
  rfl

theorem render_json (r : ResultSet) : render (.json r) = r.toJson.text .pretty ++ "\n" :=
  rfl

@[simp] theorem results_true (r : ResultSet) : results true r = .json r := rfl

@[simp] theorem results_false (r : ResultSet) : results false r = .table r := rfl

/-! ## The parts of a line -/

section Lines

variable {width : Nat} {s column line : String}

theorem titled_iff {ssid name : String} : Titled ssid name ↔ name = displayName ssid := by
  unfold displayName
  constructor
  · rintro (hnamed | -)
    · simp [hnamed]
    · rfl
  · rintro rfl
    split
    next hempty =>
      obtain rfl := String.isEmpty_iff.mp hempty
      exact .hidden
    next hnamed => exact .own fun hempty => hnamed (String.isEmpty_iff.mpr hempty)

theorem blanks_iff {blanks : Nat} :
    s.length + blanks = max width s.length ↔ blanks = width - s.length := by
  omega

theorem flushLeft_iff : FlushLeft width s column ↔ column = padRight width s := by
  simp only [FlushLeft, blanks_iff, exists_eq_left]
  rw [padRight, String.ofList_append, String.ofList_toList]

theorem flushRight_iff : FlushRight width s column ↔ column = padLeft width s := by
  simp only [FlushRight, blanks_iff, exists_eq_left]
  rw [padLeft, String.ofList_append, String.ofList_toList]

theorem isRow_iff {name bssid frequency signal : String} :
    IsRow name bssid frequency signal line ↔ line ++ "\n" = row name bssid frequency signal := by
  have hrow : row name bssid frequency signal = (padRight 32 name ++ " " ++ padRight 17 bssid ++
      " " ++ padLeft 6 frequency ++ " " ++ padLeft 6 signal) ++ "\n" := by
    simp [row, String.intercalate_cons_cons, String.append_assoc]
  rw [hrow, String.append_left_inj]
  simp only [IsRow, flushLeft_iff, flushRight_iff]
  constructor
  · rintro ⟨_, _, _, _, rfl, rfl, rfl, rfl, rfl⟩
    rfl
  · rintro rfl
    exact ⟨_, _, _, _, rfl, rfl, rfl, rfl, rfl⟩

theorem exists_isRow (name bssid frequency signal : String) :
    ∃ line, IsRow name bssid frequency signal line :=
  ⟨_, isRow_iff.mpr rfl⟩

/-- A network has one line in a table. -/
theorem lists_iff (d : Detection) (line : String) : Lists d line ↔ line ++ "\n" = rowOf d := by
  simp only [Lists, titled_iff, isRow_iff, rowOf, exists_eq_left]

theorem exists_lists (d : Detection) : ∃ line, Lists d line := by
  obtain ⟨line, hrow⟩ := exists_isRow (displayName d.ssid) d.bssid (toString d.frequency)
    (toString d.signal)
  exact ⟨line, _, titled_iff.mpr rfl, hrow⟩

/-- A network is announced by one line. -/
theorem announces_iff (d : Detection) (line : String) :
    Announces d line ↔ line ++ "\n" = render (.fullResult d) := by
  have hend : " MHz\n" = " MHz" ++ "\n" := by decide
  rw [render_fullResult, hend, ← String.append_assoc, String.append_left_inj]
  simp only [Announces, titled_iff, exists_eq_left]

theorem exists_announces (d : Detection) : ∃ line, Announces d line :=
  ⟨_, displayName d.ssid, titled_iff.mpr rfl, rfl⟩

end Lines

/-! ## Several lines -/

theorem unlines_cons (line : String) (lines : List String) :
    unlines (line :: lines) = line ++ "\n" ++ unlines lines := by
  simp [unlines]

theorem unlines_append (lines more : List String) :
    unlines (lines ++ more) = unlines lines ++ unlines more := by
  simp [unlines]

theorem unlines_singleton (line : String) : unlines [line] = line ++ "\n" := by
  simp [unlines]

section Networks

variable {shows : Detection → String → Prop} {text : Detection → String} {lines : List String}

/-- Lines that show networks one by one make up the text of all of them. -/
theorem unlines_of_forall₂ (hline : ∀ d line, shows d line ↔ line ++ "\n" = text d)
    {ds : List Detection} (h : List.Forall₂ shows ds lines) :
    unlines lines = String.join (ds.map text) := by
  induction h with
  | nil => rfl
  | cons hshows _ ih =>
      rw [unlines_cons, List.map_cons, String.join_cons, ih, (hline _ _).mp hshows]

/-- Networks have lines if each of them has one. -/
theorem exists_lines (hends : ∀ d, ∃ line, shows d line) (ds : List Detection) :
    ∃ lines, List.Forall₂ shows ds lines := by
  induction ds with
  | nil => exact ⟨[], .nil⟩
  | cons d ds ih =>
      obtain ⟨line, hshows⟩ := hends d
      obtain ⟨lines, hlines⟩ := ih
      exact ⟨line :: lines, .cons hshows hlines⟩

end Networks

/-! ## Whole pages -/

variable {r : ResultSet} {s : String}

/-- A table has one text. -/
theorem Tabulates.unlines_eq {lines : List String} (h : Tabulates r lines) :
    unlines lines = render (.table r) := by
  obtain ⟨top, rows, htop, hrows, rfl⟩ := h
  have hcount : rows.length = r.size := hrows.length_eq.symm
  have hend : " networks\n" = " networks" ++ "\n" := by decide
  rw [unlines_append, unlines_cons, isRow_iff.mp htop, unlines_of_forall₂ lists_iff hrows, hcount,
    unlines_singleton, render_table, hend]
  simp only [String.append_assoc]

theorem exists_tabulates (r : ResultSet) : ∃ lines, Tabulates r lines := by
  obtain ⟨top, htop⟩ := exists_isRow "SSID" "BSSID" "MHz" "dBm"
  obtain ⟨rows, hrows⟩ := exists_lines exists_lists r.detections
  exact ⟨_, top, rows, htop, hrows, rfl⟩

/-- The JSON of a result set is read back as that set. -/
theorem read_json (r : ResultSet) : Json.read ResultSet.reader (render (.json r)) = .ok r :=
  r.reads_toJson.read_line .pretty

/-- Each page has one text, the one that is printed. -/
theorem prints_iff {p : Page} : p.Prints s ↔ s = p.render := by
  constructor
  · rintro (_ | hannounces | _ | htabulates | ⟨hpretty, -⟩)
    · rfl
    · exact (announces_iff _ _).mp hannounces
    · rw [render_heading]
    · exact htabulates.unlines_eq
    · rw [hpretty, render_json]
  · rintro rfl
    cases p with
    | text s => exact .text s
    | fullResult d =>
        obtain ⟨line, hannounces⟩ := exists_announces d
        rw [← (announces_iff _ _).mp hannounces]
        exact .fullResult hannounces
    | heading cycle cycles =>
        rw [render_heading]
        exact .heading cycle cycles
    | table r =>
        obtain ⟨lines, htabulates⟩ := exists_tabulates r
        rw [← htabulates.unlines_eq]
        exact .table htabulates
    | json r => exact .json (render_json r) (read_json r)

/-! ## Runs of pages -/

theorem output_append (pages more : List Page) :
    output (pages ++ more) = output pages ++ output more := by
  simp [output]

theorem output_singleton (p : Page) : output [p] = p.render := by
  simp [output]

theorem output_pair (p q : Page) : output [p, q] = p.render ++ q.render := by
  simp [output]

theorem output_flatMap {α : Type} (f : α → List Page) (as : List α) :
    output (as.flatMap f) = String.join (as.map fun a => output (f a)) := by
  induction as with
  | nil => rfl
  | cons a as ih => rw [List.flatMap_cons, output_append, ih, List.map_cons, String.join_cons]

theorem exists_texts (pages : List Page) :
    ∃ texts, List.Forall₂ Prints pages texts ∧ output pages = String.join texts := by
  refine ⟨pages.map render, ?_, rfl⟩
  rw [List.forall₂_map_right_iff, List.forall₂_same]
  intro p _
  exact prints_iff.mpr rfl

/-- Records before a table have one line each. -/
theorem exists_announced (ds : List Detection) (r : ResultSet) :
    ∃ marks lines, List.Forall₂ Announces ds marks ∧ Tabulates r lines ∧
      output (ds.map .fullResult ++ [.table r]) = unlines (marks ++ lines) := by
  obtain ⟨marks, hmarks⟩ := exists_lines exists_announces ds
  obtain ⟨lines, htabulates⟩ := exists_tabulates r
  refine ⟨marks, lines, hmarks, htabulates, ?_⟩
  have hrecords : output (ds.map .fullResult) = unlines marks := by
    rw [unlines_of_forall₂ announces_iff hmarks, output, List.map_map]
    rfl
  rw [output_append, output_singleton, hrecords, unlines_append, htabulates.unlines_eq]

end Page

end WirelessScan
