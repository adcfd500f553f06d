import Autoresponder.Proofs.Store.Documents

/-!
# Stored responses

The kind of a response stands beside the document with its settings. Whatever is read from the two
is of that kind and is read again from what is written for it, and of the document only the settings
of the kind are looked at.
-/

namespace Autoresponder

open Json

namespace Response

/-! ## 1. Settings -/

/-- The names of the settings of a kind, as `Response.toConfig` writes them. -/
def fields : String → List String
  | "text" => ["text"]
  | "buttons" => ["text", "buttons"]
  | "template" => ["name", "language", "parameters"]
  | "start_flow" => ["flow_id"]
  | "ai" => ["instructions"]
  | _ => []

theorem type_notMem_fields (tag : String) : "type" ∉ fields tag := by
  unfold fields
  split <;> decide

theorem key_mem_fields (r : Response) : ∀ m ∈ r.members, m.1 ∈ fields r.tag := by
  cases r with
  | ai instructions => cases instructions <;> simp [members, optionalMember, fields, tag]
  | _ => simp [members, fields, tag]

/-! ## 2. Readers -/

theorem asksFor_reader (tag : String) : AsksFor (fields tag) (reader tag) := by
  unfold reader
  split
  · exact .bind (.field (by decide) _) fun _ => .pure _
  · exact .bind (.field (by decide) _) fun _ => .bind (.field (by decide) _) fun _ => .pure _
  · exact .bind (.field (by decide) _) fun _ => .bind (.fieldOr (by decide) _ _) fun _ =>
      .bind (.fieldOr (by decide) _ _) fun _ => .pure _
  · exact .bind (.field (by decide) _) fun _ => .pure _
  · exact .bind (.fieldOr (by decide) _ _) fun _ => .pure _
  · exact .failure

theorem makes_reader (tag : String) : Makes (fun r : Response => r.tag = tag) (reader tag) := by
  unfold reader
  split
  · exact .bind fun _ => .pure rfl
  · exact .bind fun _ => .bind fun _ => .pure rfl
  · exact .bind fun _ => .bind fun _ => .bind fun _ => .pure rfl
  · exact .bind fun _ => .pure rfl
  · exact .bind fun _ => .pure rfl
  · exact .failure

theorem reads_members (r : Response) : Reads r.members (reader r.tag) r := by
  cases r with
  | text body => exact .bind (.field rfl rfl) (.pure _)
  | buttons body bs =>
    exact .bind (.field rfl rfl) <|
      .bind (.field rfl (asList_map Button.fromJson_toJson bs)) (.pure _)
  | template name language parameters =>
    exact .bind (.field rfl rfl) <| .bind (.fieldOr rfl rfl) <|
      .bind (.fieldOr rfl (asList_ofStrings parameters)) (.pure _)
  | startFlow flow => exact .bind (.field rfl flow.fromJson_toJson) (.pure _)
  | ai instructions => cases instructions <;> exact .bind (.nullableOr rfl) (.pure _)

/-! ## 3. Kind and settings together -/

theorem ofStored_congr {tag : String} {members members' : List (String × Json)}
    (h : Agree (fields tag) members members') :
    ofStored tag (.obj members) = ofStored tag (.obj members') := by
  -- No setting is lost when a kind among them is taken out.
  have hkindless : Agree (fields tag) (members.filter (·.1 != "type"))
      (members'.filter (·.1 != "type")) := by
    intro key hkey
    have hcomm := fun l : List (String × Json) =>
      List.filter_comm (·.1 == key) (·.1 != "type") l
    rw [hcomm, hcomm, h key hkey]
  simp only [ofStored, (asksFor_reader tag).finish_eq hkindless]

-- No setting goes by the name of the kind.
theorem key_ne_type (r : Response) : ∀ m ∈ r.members, m.1 ≠ "type" := by
  intro m hm heq
  have hfield := r.key_mem_fields m hm
  rw [heq] at hfield
  exact type_notMem_fields r.tag hfield

theorem ofStored_toConfig_self (r : Response) : ofStored r.tag r.toConfig = .ok r :=
  ofStored_of_reads (filter_key r.key_ne_type).2 r.reads_members

theorem tag_of_ofStored_obj {tag : String} {r : Response} (members : List (String × Json))
    (h : ofStored tag (.obj members) = .ok r) : r.tag = tag := by
  simp only [ofStored] at h
  split at h
  · rename_i hfinish
    cases h
    exact (makes_reader tag).of_finish hfinish
  · cases h

theorem tag_of_ofStored {tag : String} {config : Json} {r : Response}
    (h : ofStored tag config = .ok r) : r.tag = tag := by
  cases config with
  | obj members => exact tag_of_ofStored_obj members h
  -- No settings at all are read like an empty object.
  | null => exact tag_of_ofStored_obj [] h
  | _ => cases h

/-- How `Response.toConfig` writes the responses of a kind, and `Response.ofStored` reads them. -/
structure StoredForm (tag : String) : Prop where
  /-- What is written for a response is read as this response. -/
  written : ∀ r : Response, r.tag = tag → ofStored tag r.toConfig = .ok r
  /-- What is written holds no kind, and nothing but settings of the kind. -/
  kindless : ∀ r : Response, r.tag = tag → ∃ members, r.toConfig = .obj members ∧
    ∀ m ∈ members, m.1 ≠ "type" ∧ m.1 ∈ fields tag
  /-- What is read is of the kind, and is read again from what is written for it. -/
  read : ∀ (config : Json) (r : Response), ofStored tag config = .ok r →
    r.tag = tag ∧ ofStored r.tag r.toConfig = .ok r
  /-- Of an object nothing matters but the settings of the kind. -/
  settings : ∀ members members' : List (String × Json), Agree (fields tag) members members' →
    ofStored tag (.obj members) = ofStored tag (.obj members')
  /-- Neither a kind among the settings matters nor anything that is no setting of the kind. -/
  passedOver : ∀ (key : String) (value : Json) (front back : List (String × Json)),
    key = "type" ∨ key ∉ fields tag →
      ofStored tag (.obj (front ++ (key, value) :: back)) = ofStored tag (.obj (front ++ back))

/-- **Responses are read as they are written.** `Response.ofStored` reads a response from its kind
`tag` and its settings, and what is read is of that kind and is read again from its `toConfig`.
Members of the document that are no settings of the kind make no difference, a kind among them
neither. -/
theorem stored_form (tag : String) : StoredForm tag where
  written r hr := hr ▸ r.ofStored_toConfig_self
  kindless r hr := ⟨r.members, rfl, fun m hm => ⟨r.key_ne_type m hm, hr ▸ r.key_mem_fields m hm⟩⟩
  read config r h := ⟨tag_of_ofStored h, r.ofStored_toConfig_self⟩
  settings members members' := ofStored_congr
  passedOver key value front back hkey := by
    have hunknown : key ∉ fields tag := by
      rcases hkey with rfl | hkey
      · exact type_notMem_fields tag
      · exact hkey
    exact ofStored_congr (agree_insert hunknown value front back)

-- Another kind among the settings and a colour that nobody asks for.
example : ofStored "template"
    (.obj [("type", .str "text"), ("color", .int 3), ("name", .str "hello")]) =
      .ok (template "hello" "en" []) := by
  rfl

end Response

end Autoresponder
