import Autoresponder.Proofs.Json.Records
import Autoresponder.Proofs.Json.Text
import Autoresponder.Proofs.Store.Kept

/-!
# What documents keep

The graph and the trigger of a flow and the response of a rule are kept as documents. Each of them
is read from its document as it was written, whatever texts and numbers it holds, and the document
from its text.
-/

namespace Autoresponder

open Json

/-! ## 1. Numbers and identifiers -/

theorem Json.asUInt64_toNat (n : UInt64) : asUInt64 (.int n.toNat) = some n := by
  have hlt : n.toNat < UInt64.size := n.toNat_lt
  rw [asUInt64, asIntIn, if_pos (by omega), Option.map_some, Int.toNat_natCast, UInt64.ofNat_toNat]

theorem Uuid.fromJson_toJson (u : Uuid) : Uuid.fromJson u.toJson = some u := by
  rw [Uuid.fromJson, Uuid.toJson, asString, Option.bind_some, Uuid.ofString?_toString]

/-! ## 2. Triggers -/

theorem MatchMode.ofTag?_tag (m : MatchMode) : ofTag? m.tag = some m := by cases m <;> rfl

namespace TriggerConfig

-- A configuration without a threshold is written as it is.
theorem settled_of_threshold {c : TriggerConfig} (h : c.threshold = none) : c.settled = c := by
  obtain ⟨keywords, matchMode, caseSensitive, command, aliases, threshold⟩ := c
  obtain rfl : threshold = none := h
  rfl

theorem fromJson_toJson {c : TriggerConfig} (h : c.threshold = none) :
    fromJson c.toJson = some c := by
  obtain ⟨keywords, matchMode, caseSensitive, command, aliases, threshold⟩ := c
  obtain rfl : threshold = none := h
  refine asRecord_of_reads ?_
  cases command <;>
    exact .bind (.fieldOr rfl (asList_ofStrings keywords)) <|
      .bind (.fieldOr rfl matchMode.ofTag?_tag) <|
      .bind (.fieldOr rfl rfl) <|
      .bind (.nullableOr rfl) <|
      .bind (.fieldOr rfl (asList_ofStrings aliases)) <|
      .bind (.fieldOr_default rfl) (.pure _)

end TriggerConfig

/-! ## 3. Graphs -/

theorem Button.fromJson_toJson (b : Button) : fromJson b.toJson = some b :=
  asRecord_of_reads <| .bind (.field rfl rfl) <| .bind (.field rfl rfl) (.pure _)

namespace NodeKind

-- What belongs to a kind is read by the reader of the kind.
theorem reads_members (k : NodeKind) : Reads k.members (reader k.tag) k := by
  cases k with
  | trigger => exact .pure _
  | message text => exact .bind (.field rfl rfl) (.pure _)
  | buttons text bs variableName =>
    cases variableName <;>
      exact .bind (.field rfl rfl) <|
        .bind (.field rfl (asList_map Button.fromJson_toJson bs)) <|
        .bind (.nullableOr rfl) (.pure _)
  | delay seconds => exact .bind (.fieldOf rfl (asUInt64_toNat seconds)) (.pure _)
  | form id body callToAction =>
    exact .bind (.field rfl rfl) <| .bind (.fieldOr rfl rfl) <| .bind (.fieldOr rfl rfl) (.pure _)
  | finish text => cases text <;> exact .bind (.nullableOr rfl) (.pure _)

-- No kind has a member of the name that a node gives to its own name or to its kind.
theorem key_of_mem_members (k : NodeKind) : ∀ m ∈ k.members, m.1 ≠ "id" ∧ m.1 ≠ "type" := by
  cases k with
  | buttons text bs variableName => cases variableName <;> simp [members, optionalMember]
  | finish text => cases text <;> simp [members, optionalMember]
  | _ => simp [members]

end NodeKind

theorem Node.fromJson_toJson (n : Node) : fromJson n.toJson = some n := by
  obtain ⟨id, kind⟩ := n
  obtain ⟨hname, hnameless⟩ := filter_key fun m hm => (kind.key_of_mem_members m hm).1
  obtain ⟨htag, htagless⟩ := filter_key fun m hm => (kind.key_of_mem_members m hm).2
  simp only [fromJson, toJson]
  simp [hname, hnameless, htag, htagless, NodeKind.tagOf?, kind.reads_members.finish]

theorem Edge.fromJson_toJson (e : Edge) : fromJson e.toJson = some e := by
  obtain ⟨source, target, handle⟩ := e
  refine asRecord_of_reads ?_
  cases handle <;>
    exact .bind (.field rfl rfl) <| .bind (.field rfl rfl) <| .bind (.nullableOr rfl) (.pure _)

/-! ## 4. Responses -/

namespace Json

-- A list whose items are in canonical form is so itself.
theorem canonicalItems_map {α : Type} {write : α → Json} (h : ∀ a, (write a).canonical = write a)
    (as : List α) : canonicalItems (as.map write) = as.map write := by
  induction as with
  | nil => rfl
  | cons a rest ih => rw [List.map_cons, canonicalItems, h, ih]

theorem canonical_ofStrings (xs : List String) : (ofStrings xs).canonical = ofStrings xs := by
  rw [ofStrings, canonical, canonicalItems_map fun _ => rfl]

end Json

namespace Response

theorem ofStored_of_reads {tag : String} {members : List (String × Json)} {r : Response}
    (hkeys : members.filter (·.1 != "type") = members) (h : Reads members (reader tag) r) :
    ofStored tag (.obj members) = .ok r := by
  simp only [ofStored, hkeys, h.finish]

-- A response is read from its kind and the canonical form of its settings.
theorem ofStored_toConfig (r : Response) : ofStored r.tag r.toConfig.canonical = .ok r := by
  cases r with
  | text body => exact ofStored_of_reads rfl <| .bind (.field rfl rfl) (.pure _)
  | buttons body bs =>
    have hconfig : (toConfig (buttons body bs)).canonical =
        .obj [("buttons", .arr (bs.map Button.toJson)), ("text", .str body)] := by
      rw [toConfig, members, canonical, canonicalMembers, canonical, canonicalMembers, canonical,
        canonicalItems_map fun _ => rfl, canonicalMembers]
      rfl
    rw [hconfig]
    exact ofStored_of_reads rfl <| .bind (.field rfl rfl) <|
      .bind (.field rfl (asList_map Button.fromJson_toJson bs)) (.pure _)
  | template name language parameters =>
    have hconfig : (toConfig (template name language parameters)).canonical =
        .obj [("language", .str language), ("name", .str name),
          ("parameters", ofStrings parameters)] := by
      simp only [toConfig, members, canonical, canonicalMembers, canonical_ofStrings]
      rfl
    rw [hconfig]
    exact ofStored_of_reads rfl <| .bind (.field rfl rfl) <| .bind (.fieldOr rfl rfl) <|
      .bind (.fieldOr rfl (asList_ofStrings parameters)) (.pure _)
  | startFlow flow =>
    exact ofStored_of_reads rfl <| .bind (.field rfl flow.fromJson_toJson) (.pure _)
  | ai instructions =>
    cases instructions <;> exact ofStored_of_reads rfl <| .bind (.nullableOr rfl) (.pure _)

end Response

/-! ## 5. Texts of documents -/

namespace Json

theorem fits_map {α : Type} {write : α → Json} {n : Nat} (h : ∀ a, Fits n (write a))
    (as : List α) : Fits (n + 1) (.arr (as.map write)) := by
  refine .arr fun j hj => ?_
  obtain ⟨a, -, rfl⟩ := List.mem_map.mp hj
  exact h a

theorem fits_ofStrings (xs : List String) (n : Nat) : Fits (n + 1) (ofStrings xs) :=
  fits_map (Fits.str n) xs

theorem isWord_toNat (n : UInt64) : IsWord n.toNat := by
  have hlt : n.toNat < wordLimit := n.toNat_lt
  have hmin : Int64.minValue.toInt ≤ 0 := by decide
  exact ⟨by omega, by omega⟩

end Json

theorem TriggerConfig.fits {c : TriggerConfig} (h : c.threshold = none) (n : Nat) :
    Fits (n + 2) c.toJson := by
  obtain ⟨keywords, matchMode, caseSensitive, command, aliases, threshold⟩ := c
  obtain rfl : threshold = none := h
  refine .obj ?_
  cases command <;> simp [fits_ofStrings, Fits.str, Fits.bool]

theorem Button.fits (b : Button) (n : Nat) : Fits (n + 1) b.toJson :=
  .obj (by simp [Fits.str])

theorem NodeKind.fits_members (k : NodeKind) (n : Nat) : ∀ m ∈ k.members, Fits (n + 2) m.2 := by
  cases k with
  | trigger => simp [members]
  | message text => simp [members, Fits.str]
  | buttons text bs variableName =>
    have hbuttons := fits_map (fun b => Button.fits b n) bs
    cases variableName <;> simp [members, optionalMember, Fits.str, hbuttons]
  | delay seconds =>
    have hseconds := Fits.int (n + 2) (isWord_toNat seconds)
    simpa [members] using hseconds
  | form id body callToAction => simp [members, Fits.str]
  | finish text => cases text <;> simp [members, optionalMember, Fits.str]

theorem Node.fits (x : Node) (n : Nat) : Fits (n + 3) x.toJson :=
  .obj (by simpa [Fits.str] using x.kind.fits_members n)

theorem Edge.fits (e : Edge) (n : Nat) : Fits (n + 1) e.toJson := by
  obtain ⟨source, target, handle⟩ := e
  refine .obj ?_
  cases handle <;> simp [optionalMember, Fits.str]

theorem Response.fits (r : Response) (n : Nat) : Fits (n + 3) r.toConfig := by
  refine .obj ?_
  cases r with
  | text body => simp [members, Fits.str]
  | buttons body bs =>
    have hbuttons := fits_map (fun b => Button.fits b n) bs
    simp [members, Fits.str, hbuttons]
  | template name language parameters => simp [members, Fits.str, fits_ofStrings]
  | startFlow flow => simp [members, Uuid.toJson, Fits.str]
  | ai instructions => cases instructions <;> simp [members, optionalMember, Fits.str]

theorem Variables.fits (vs : Variables) (n : Nat) : Fits (n + 1) vs.toJson := by
  refine .obj fun m hm => ?_
  obtain ⟨e, -, rfl⟩ := List.mem_map.mp hm
  exact .str n e.2

end Autoresponder
