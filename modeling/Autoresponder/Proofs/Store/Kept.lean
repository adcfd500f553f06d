import Autoresponder.Proofs.Time.Stored
import Autoresponder.Store.Basic

/-!
# What rows keep of conversations

The row of a conversation reads back as the conversation, but for instants outside of the four-digit
years. So a conversation that was read once is read the same ever after.
-/

namespace Autoresponder

/-! ## 1. Identifiers -/

namespace Uuid

-- Five groups of digits with hyphens between them are read as one run of digits.
theorem ofHyphenated?_groups {a b c d e : List Char} (ha : a.length = 8) (hb : b.length = 4)
    (hc : c.length = 4) (hd : d.length = 4) (he : e.length = 12) :
    ofHyphenated? (a ++ '-' :: (b ++ '-' :: (c ++ '-' :: (d ++ '-' :: e)))) =
      ofDigits? (a ++ b ++ c ++ d ++ e) := by
  unfold ofHyphenated?
  rw [if_pos]
  · simp [List.drop_append, ha, hb, hc, hd, List.drop_of_length_le]
  · simp [ha, hb, hc, hd, he]

theorem ofHyphenated?_chars (u : Uuid) : ofHyphenated? u.chars = some u := by
  have hlength : (u.digits.map hexChar).length = 32 := by rw [List.length_map, u.length_digits]
  have hgroups : u.digits.map hexChar =
      (u.digits.map hexChar).take 8 ++ ((u.digits.map hexChar).drop 8).take 4 ++
        ((u.digits.map hexChar).drop 12).take 4 ++ ((u.digits.map hexChar).drop 16).take 4 ++
        (u.digits.map hexChar).drop 20 := by
    conv_lhs => rw [← List.take_append_drop 20 (u.digits.map hexChar),
      show 20 = 8 + 4 + 4 + 4 from rfl,
      List.take_add, List.take_add, List.take_add]
  have hread : ofHyphenated? u.chars = ofDigits? (u.digits.map hexChar) := by
    conv_rhs => rw [hgroups]
    unfold chars
    simp only [List.append_assoc, List.cons_append]
    rw [ofHyphenated?_groups]
    · simp only [List.append_assoc]
    all_goals
      simp only [List.length_take, List.length_drop]
      omega
  rw [hread, ofDigits?, mapM_hexDigit?_hexChar, Option.bind_some, dif_pos u.length_digits]

-- An identifier is read from its written form.
theorem ofString?_toString (u : Uuid) : ofString? (toString u) = some u := by
  have hlength : u.chars.length = 36 := by
    have := u.length_digits
    unfold chars
    simp only [List.length_append, List.length_cons, List.length_take, List.length_drop,
      List.length_map]
    omega
  change ofChars? (String.ofList u.chars).toList = some u
  rw [String.toList_ofList, ofChars?, if_neg (by omega), if_pos hlength, ofHyphenated?_chars]

theorem toString_inj {u v : Uuid} : toString u = toString v ↔ u = v := by
  constructor
  · intro h
    have hread := ofString?_toString u
    rw [h, ofString?_toString] at hread
    exact (Option.some.inj hread).symm
  · exact congrArg toString

end Uuid

theorem Store.readUuid_toString (u : Uuid) : Store.readUuid (toString u) = .ok u := by
  rw [Store.readUuid, Uuid.ofString?_toString]

/-! ## 2. Variables -/

-- Variables are read from their document.
theorem Variables.fromJson_toJson (vs : Variables) : Variables.fromJson vs.toJson = some vs := by
  have hmembers : ((vs.entries.map fun e => (e.1, Json.str e.2)).mapM fun m =>
      (Json.asString m.2).map fun a => (m.1, a)) = some vs.entries := by
    induction vs.entries with
    | nil => rfl
    | cons e r ih =>
      rw [List.map_cons, List.mapM_cons, ih]
      rfl
  have hsorted : Text.putAll [] vs.entries = vs.entries := Text.putAll_of_sorted vs.sorted
  rw [Variables.fromJson, Variables.toJson, Json.asEntries, hmembers, Option.map_some, hsorted,
    Option.map_some, Variables.ofList, Variables.putAll_entries]

/-! ## 3. Conversations -/

namespace Conversation

/-- What a conversation reads as (`StateRow.read`) after it was stored. -/
def kept (c : Conversation) : Conversation :=
  { c with lastInbound := c.lastInbound.map Instant.kept, resumeAt := c.resumeAt.map Instant.kept,
           created := c.created.kept, updated := c.updated.kept,
           completed := c.completed.map Instant.kept }

@[simp] theorem kept_kept (c : Conversation) : c.kept.kept = c.kept := by
  simp [kept, Function.comp_def]

end Conversation

namespace Store.StateRow

theorem map_readStored (t : Option Instant) :
    (optionalStored t).map TimeText.readStored = t.map Instant.kept := by
  cases t with
  | none => rfl
  | some t => exact congrArg some (Instant.kept_def t).symm

-- The row of a conversation, whatever its version, reads as what storing keeps.
theorem read_ofConversation (c : Conversation) (version : IntCell) :
    read { ofConversation c with version } = .ok { c.kept with version := version.value } := by
  have hdocument :
      readDocument 7 Variables.fromJson (some c.collected.toJson) = .ok c.collected := by
    rw [readDocument, Option.bind_some, Variables.fromJson_toJson]
  unfold read ofConversation
  dsimp only
  rw [readUuid_toString, readUuid_toString, hdocument]
  simp only [bind, Except.bind, pure, Except.pure, map_readStored, IntCell.isSet_ofBool,
    Conversation.kept, Instant.kept_def]

end Store.StateRow

end Autoresponder
