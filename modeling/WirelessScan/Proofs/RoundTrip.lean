import WirelessScan.Detection.Written
import WirelessScan.Proofs.WrittenValues
import WirelessScan.Replay.Fixture

/-!
# Detections and fixtures are read back

A detection is read back from its written form, in either layout. So is a fixture, as one list in
the same order, unless the name of some network is too long: then nothing of it is accepted, however
many of its networks would be.

An object may leave out fields that hold their defaults, each object its own (`Abridges`). That
makes no difference to what is read.
-/

namespace WirelessScan

open Json (Layout Value Reads)

namespace Json

variable {defaults : List (String × Value)}

/-- The first object is the second one without some of the fields that hold their defaults. -/
inductive Abridges (defaults : List (String × Value)) : Value → Value → Prop where
  | empty : Abridges defaults (.object []) (.object [])
  | keep {field : String × Value} {short full : List (String × Value)}
      (hrest : Abridges defaults (.object short) (.object full)) :
      Abridges defaults (.object (field :: short)) (.object (field :: full))
  | leave {field : String × Value} {short full : List (String × Value)}
      (hdefault : field ∈ defaults) (hrest : Abridges defaults (.object short) (.object full)) :
      Abridges defaults (.object short) (.object (field :: full))

namespace Abridges

theorem refl (fields : List (String × Value)) :
    Abridges defaults (.object fields) (.object fields) := by
  induction fields with
  | nil => exact .empty
  | cons field fields ih => exact .keep ih

/-- A field that does not hold a default is there. -/
theorem exists_keep {field : String × Value} {v : Value} {full : List (String × Value)}
    (h : Abridges defaults v (.object (field :: full))) (hdefault : field ∉ defaults) :
    ∃ short, v = .object (field :: short) ∧ Abridges defaults (.object short) (.object full) := by
  cases h with
  | keep hrest => exact ⟨_, rfl, hrest⟩
  | leave hmem => exact absurd hmem hdefault

end Abridges

end Json

open Json (Abridges Collects)

/-! ## Detections -/

/-- A detection is read from its written form. -/
theorem Detection.reads_toJson (d : Detection) : Reads Detection.reader d.toJson d := by
  apply Reads.record
  case h =>
    apply Collects.field rfl rfl
      ((Reads.text d.ssid).into _ fun (t : Draft) a => { t with ssid := some a })
    apply Collects.field rfl rfl
      ((Reads.text d.bssid).into _ fun (t : Draft) a => { t with bssid := some a })
    apply Collects.field rfl rfl
      ((Reads.int32 d.signal).into _ fun (t : Draft) a => { t with signal := some a })
    apply Collects.field rfl rfl
      ((Reads.uint32 d.frequency).into _ fun (t : Draft) a => { t with frequency := some a })
    apply Collects.field rfl rfl
      ((Reads.uint64 d.micros).into _ fun (t : Draft) a => { t with micros := some a })
    apply Collects.field rfl rfl
      ((Reads.bytes d.elements).into _ fun (t : Draft) a => { t with elements := some a })
    exact Collects.done
  case hfinish => rfl

/-! ## Networks -/

namespace Replay.Network

/-- The fields of a network that may be left out, with their defaults. -/
def defaults : List (String × Value) :=
  [("offset_ms", .number 0), ("information_elements", .bytes [])]

/-- The draft of a network that has the fields that have to be there, and some of the others. -/
def Draft.ofNetwork (n : Network) (offset : Option Int64) (elements : Option (List UInt8)) :
    Draft :=
  { ssid := some n.ssid
    bssid := some n.bssid
    signal := some n.signal
    frequency := some n.frequency
    offset := offset
    elements := elements }

/-- The fields that have to be there come first. -/
theorem collects_required {n : Network} {named : List (String × Value)} {final : Draft}
    (h : Collects Draft.fields (.ofNetwork n none none) named final) :
    Collects Draft.fields {}
      (("ssid", .string n.ssid) :: ("bssid", .string n.bssid) :: ("rssi", .number n.signal.toInt) ::
        ("frequency", .number n.frequency.toNat) :: named) final := by
  apply Collects.field rfl rfl
    ((Reads.text n.ssid).into _ fun (t : Draft) a => { t with ssid := some a })
  apply Collects.field rfl rfl
    ((Reads.text n.bssid).into _ fun (t : Draft) a => { t with bssid := some a })
  apply Collects.field rfl rfl
    ((Reads.int32 n.signal).into _ fun (t : Draft) a => { t with signal := some a })
  apply Collects.field rfl rfl
    ((Reads.uint32 n.frequency).into _ fun (t : Draft) a => { t with frequency := some a })
  exact h

/-- The bytes come last, or are left out. -/
theorem collects_elements {n : Network} (offset : Option Int64) {short : List (String × Value)}
    (h : Abridges defaults (.object short)
      (.object [("information_elements", .bytes n.elements)])) :
    ∃ elements : Option (List UInt8), elements.getD [] = n.elements ∧
      Collects Draft.fields (.ofNetwork n offset none) short (.ofNetwork n offset elements) := by
  cases h with
  | keep hrest =>
      cases hrest
      refine ⟨some n.elements, rfl, ?_⟩
      apply Collects.field rfl rfl
        ((Reads.bytes n.elements).into _ fun (t : Draft) a => { t with elements := some a })
      exact Collects.done
  | leave hdefault hrest =>
      cases hrest
      have hempty : n.elements = [] := by simpa [defaults, Value.bytes] using hdefault
      exact ⟨none, hempty.symm, Collects.done⟩

/-- The offset comes before the bytes, or is left out. -/
theorem collects_optional {n : Network} {short : List (String × Value)}
    (h : Abridges defaults (.object short) (.object
      [("offset_ms", .number n.offset.toInt), ("information_elements", .bytes n.elements)])) :
    ∃ (offset : Option Int64) (elements : Option (List UInt8)),
      offset.getD 0 = n.offset ∧ elements.getD [] = n.elements ∧
      Collects Draft.fields (.ofNetwork n none none) short (.ofNetwork n offset elements) := by
  cases h with
  | keep hrest =>
      obtain ⟨elements, helements, hcollects⟩ := collects_elements (some n.offset) hrest
      refine ⟨some n.offset, elements, rfl, helements, ?_⟩
      apply Collects.field rfl rfl
        ((Reads.int64 n.offset).into _ fun (t : Draft) a => { t with offset := some a })
      exact hcollects
  | leave hdefault hrest =>
      obtain ⟨elements, helements, hcollects⟩ := collects_elements none hrest
      have hzero : n.offset.toInt = 0 := by simpa [defaults] using hdefault
      exact ⟨none, elements, (Int64.toInt_inj.mp hzero).symm, helements, hcollects⟩

/-- A network is read from its written form, whichever defaults that leaves out. -/
theorem reads_abridged {n : Network} {v : Value} (h : Abridges defaults v n.toJson) :
    Reads reader v n := by
  unfold toJson at h
  obtain ⟨short₁, rfl, h₁⟩ := h.exists_keep (by simp [defaults])
  obtain ⟨short₂, heq₂, h₂⟩ := h₁.exists_keep (by simp [defaults])
  obtain ⟨short₃, heq₃, h₃⟩ := h₂.exists_keep (by simp [defaults])
  obtain ⟨short₄, heq₄, h₄⟩ := h₃.exists_keep (by simp [defaults])
  cases heq₂
  cases heq₃
  cases heq₄
  obtain ⟨offset, elements, hoffset, helements, hcollects⟩ := collects_optional h₄
  apply Reads.record (collects_required hcollects)
  simp [Draft.finish, Draft.ofNetwork, hoffset, helements]

theorem reads_toJson (n : Network) : Reads reader n.toJson n :=
  reads_abridged (Abridges.refl _)

theorem hasValidName_iff {n : Network} : n.hasValidName = true ↔ n.ssid.utf8ByteSize ≤ 32 :=
  decide_eq_true_iff

end Replay.Network

/-! ## Fixtures -/

namespace Replay.Fixture

theorem check_eq (networks : List Network) :
    check networks = if ∀ n ∈ networks, n.ssid.utf8ByteSize ≤ 32 then .ok networks
      else .error (.fixture "SSID longer than 32 bytes") := by
  simp only [check, List.all_eq_true, Network.hasValidName_iff]

/-- A fixture that is read as a list of networks is accepted if all their names are. -/
theorem parse_text {networks : List Network} {objects : List Value}
    (h : List.Forall₂ (Reads Network.reader) objects networks) (layout : Layout) :
    parse ((Value.array objects).text layout) = check networks := by
  rw [parse, (Reads.array h).read_text layout]

theorem parse_toJson (networks : List Network) (layout : Layout) :
    parse ((Value.array (networks.map Network.toJson)).text layout) = check networks := by
  apply parse_text
  rw [List.forall₂_map_left_iff, List.forall₂_same]
  intro n _
  exact n.reads_toJson

end Replay.Fixture

/-- What is written is read back, in either layout. A detection is read as itself. A fixture is read
as the list of its networks if no name is longer than 32 bytes, and refused as a whole otherwise; it
is read alike if objects leave out fields that hold their defaults. -/
theorem written_records_are_read_back (layout : Layout) :
    (∀ d : Detection, Json.read Detection.reader (d.toJson.text layout) = .ok d) ∧
    (∀ networks : List Replay.Network,
      Replay.Fixture.parse ((Value.array (networks.map (·.toJson))).text layout) =
        if ∀ n ∈ networks, n.ssid.utf8ByteSize ≤ 32 then .ok networks
        else .error (.fixture "SSID longer than 32 bytes")) ∧
    ∀ (networks : List Replay.Network) (objects : List Value),
      List.Forall₂ (fun v n => Abridges Replay.Network.defaults v n.toJson) objects networks →
      Replay.Fixture.parse ((Value.array objects).text layout) =
        Replay.Fixture.parse ((Value.array (networks.map (·.toJson))).text layout) := by
  refine ⟨?_, ?_, ?_⟩
  · intro d
    exact d.reads_toJson.read_text layout
  · intro networks
    rw [Replay.Fixture.parse_toJson, Replay.Fixture.check_eq]
  · intro networks objects habridges
    have hreads := habridges.imp fun v n h => Replay.Network.reads_abridged h
    rw [Replay.Fixture.parse_text hreads, Replay.Fixture.parse_toJson]

namespace Sample

/-- A network with the extreme numbers, in whose name much has to be escaped. -/
def scrawled : Replay.Network :=
  { ssid := "\"café\"\\\n\x01", bssid := "", signal := Int32.minValue, frequency := 4294967295,
    offset := Int64.minValue, elements := [0, 255] }

/-- A network with the defaults of all fields that may be left out. -/
def plain : Replay.Network :=
  { ssid := "Lab", bssid := "b8:27:eb:6e:00:01", signal := -50, frequency := 2412 }

/-- The network `plain` with only the fields that have to be there. -/
def plainObject : Value :=
  .object [
    ("ssid", .string "Lab"),
    ("bssid", .string "b8:27:eb:6e:00:01"),
    ("rssi", .number (-50)),
    ("frequency", .number 2412)]

/-- A network whose name has seventeen letters, in two bytes each. -/
def wide : Replay.Network :=
  { plain with ssid := .ofList (List.replicate 17 'é') }

theorem shortened_fixture_read_back :
    List.Forall₂ (fun v n => Abridges Replay.Network.defaults v n.toJson)
      [scrawled.toJson, plainObject] [scrawled, plain] ∧
    Replay.Fixture.parse ((Value.array [scrawled.toJson, plainObject]).text .pretty) =
      .ok [scrawled, plain] ∧
    Replay.Fixture.parse ((Value.array [scrawled.toJson, wide.toJson]).text .compact) =
      .error (.fixture "SSID longer than 32 bytes") := by
  have hplain : Abridges Replay.Network.defaults plainObject plain.toJson := by
    apply Abridges.keep
    apply Abridges.keep
    apply Abridges.keep
    apply Abridges.keep
    apply Abridges.leave List.mem_cons_self
    apply Abridges.leave (List.mem_cons_of_mem _ List.mem_cons_self)
    exact Abridges.empty
  have hobjects : List.Forall₂
      (fun v (n : Replay.Network) => Abridges Replay.Network.defaults v n.toJson)
      [scrawled.toJson, plainObject] [scrawled, plain] :=
    .cons (Abridges.refl _) (.cons hplain .nil)
  refine ⟨hobjects, ?_, ?_⟩
  · obtain ⟨-, hfixture, habridged⟩ := written_records_are_read_back .pretty
    rw [habridged _ _ hobjects, hfixture]
    exact if_pos (by decide)
  · obtain ⟨-, hfixture, -⟩ := written_records_are_read_back .compact
    exact (hfixture [scrawled, wide]).trans (if_neg (by decide))

end Sample

end WirelessScan
