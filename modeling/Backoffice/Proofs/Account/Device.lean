import Mathlib.Data.List.TakeWhile
import Backoffice.Account.Login
import Backoffice.Proofs.Json.Texts
import Backoffice.Proofs.Record.RoundTrip

namespace Backoffice

namespace Uuid

/-- A text of five groups of lower-case hexadecimal digits, with hyphens between them. -/
structure Hyphenated (s : String) (a b c d e : List Char) : Prop where
  text : s.toList = a ++ ['-'] ++ b ++ ['-'] ++ c ++ ['-'] ++ d ++ ['-'] ++ e
  lengths : [a, b, c, d, e].map List.length = [8, 4, 4, 4, 12]
  digits : ∀ x ∈ a ++ b ++ c ++ d ++ e, x ∈ "0123456789abcdef".toList

theorem hexDigit?_writeDigit (d : Fin 16) : hexDigit? (writeDigit d) = some d := by
  revert d
  decide

theorem writeDigit_mem (d : Fin 16) : writeDigit d ∈ "0123456789abcdef".toList := by
  revert d
  decide

theorem mapM_hexDigit? (ds : List (Fin 16)) : (ds.map writeDigit).mapM hexDigit? = some ds := by
  induction ds with
  | nil => rfl
  | cons d ds ih => simp [hexDigit?_writeDigit, ih]

theorem ofDigits?_write (u : Uuid) : ofDigits? (u.digits.map writeDigit) = some u := by
  simp only [ofDigits?, mapM_hexDigit?, u.length_digits, dif_pos]

theorem write_hyphenated (u : Uuid) : ∃ a b c d e, Hyphenated u.write a b c d e ∧
    a ++ b ++ c ++ d ++ e = u.digits.map writeDigit := by
  let cs := u.digits.map writeDigit
  have hl : cs.length = 32 := (List.length_map _).trans u.length_digits
  have hc : cs.take 8 ++ (cs.drop 8).take 4 ++ (cs.drop 12).take 4 ++ (cs.drop 16).take 4 ++ cs.drop 20 = cs := by
    simp only [← List.take_add, Nat.reduceAdd, List.take_append_drop]
  refine ⟨cs.take 8, (cs.drop 8).take 4, (cs.drop 12).take 4, (cs.drop 16).take 4, cs.drop 20, ⟨?_, ?_, ?_⟩, hc⟩
  · rw [write, String.toList_ofList]
  · simp [hl]
  · rw [hc]
    intro x hx
    obtain ⟨d, -, rfl⟩ := List.mem_map.mp hx
    exact writeDigit_mem d

namespace Hyphenated

variable {s : String} {a b c d e : List Char}

theorem read? (h : Hyphenated s a b c d e) : Uuid.read? s = ofDigits? (a ++ b ++ c ++ d ++ e) := by
  obtain ⟨ht, hl, -⟩ := h
  simp only [List.map_cons, List.map_nil, List.cons.injEq, and_true] at hl
  obtain ⟨ha, hb, hc, hd, he⟩ := hl
  have hn : [8, 13, 18, 23].all (fun n ↦ s.toList[n]? == some '-') := by
    simp [ht, ha, hb, hc, hd, List.getElem?_append]
  have hs : s.toList.length = 36 := by simp [ht, ha, hb, hc, hd, he]
  simp only [Uuid.read?, hs, ofHyphenated?, hn, and_self, if_true, Nat.reduceEqDiff, if_false]
  -- Between the groups nothing is left but the hyphens that are dropped.
  simp (disch := omega) [ht, ha, hb, hc, hd, List.drop_append, List.drop_eq_nil_of_le]

theorem not_blank (h : Hyphenated s a b c d e) : ∀ x ∈ s.toList, Text.isBlank x = false := by
  have hd : "0123456789abcdef".toList.all (!Text.isBlank ·) := by decide
  intro x hx
  by_cases hn : x = '-'
  · rw [hn]
    decide
  · rw [h.text] at hx
    simpa using List.all_eq_true.mp hd x (h.digits x (by simpa [hn] using hx))

end Hyphenated

theorem read?_write (u : Uuid) : read? u.write = some u := by
  obtain ⟨a, b, c, d, e, hw, hc⟩ := write_hyphenated u
  rw [hw.read?, hc, ofDigits?_write]

end Uuid

theorem Schema.accepts_of_required {α : Type} {schema : Schema} {name : String} (dec : Decoder α) {d : Document}
    {a : α} (hf : schema.find? (·.name == name) = some (.required name dec)) (h : dec d = .ok a) :
    schema.Accepts name d := by
  refine ⟨_, hf, ?_⟩
  simp only [Field.required, h]
  rfl

namespace DeviceInfo

def named (name : String) (s : Option String) : List (String × String) := s.toList.map fun s ↦ (name, s)

theorem textMembers_named (name : String) (s : Option String) :
    Json.textMembers (named name s) = written name s := by
  cases s <;> rfl

def texts (i : DeviceInfo) : List (String × String) :=
  [("deviceId", i.deviceId.write)] ++ named "deviceName" i.deviceName ++
    [("deviceType", i.deviceType.name), ("appVersion", i.appVersion)] ++ named "osVersion" i.osVersion ++
    named "pushToken" i.pushToken ++ named "location" i.location

theorem textMembers_texts (i : DeviceInfo) : Json.textMembers i.texts = i.members := by
  simp only [texts, members, ← textMembers_named, Json.textMembers, List.map_append, List.map_cons, List.map_nil]

end DeviceInfo

theorem DeviceType.decodeMember_name (t : DeviceType) : decodeMember (.str t.name) = .ok t := by
  cases t <;> rfl

theorem Row.required_of_lookup {α : Type} {row : Row} {name : String} {dec : Decoder α} {d : Document} {a : α}
    (hl : row.lookup name = some d) (h : dec d = .ok a) : row.required name dec = .ok a := by
  simp only [Row.required, hl, h]

namespace StoredLogin

variable (l : StoredLogin)

def texts : List (String × String) := ("email", l.email) :: l.device.texts

theorem textMembers_texts : Json.textMembers l.texts = l.members :=
  congrArg (("email", Json.str l.email) :: ·) l.device.textMembers_texts

theorem nodup_members : (l.members.map Prod.fst).Nodup := by
  simp only [members, DeviceInfo.members]
  cases l.device.deviceName <;> cases l.device.osVersion <;> cases l.device.pushToken <;>
    cases l.device.location <;> simp [DeviceInfo.written]

theorem name_ne_password : ∀ m ∈ l.texts, m.1 ≠ "password" := by
  simp only [texts, DeviceInfo.texts]
  cases l.device.deviceName <;> cases l.device.osVersion <;> cases l.device.pushToken <;>
    cases l.device.location <;> simp [DeviceInfo.named]

theorem decodeId_write (id : DeviceId) : DeviceInfo.decodeId (.str id.write) = .ok id := by
  rw [DeviceInfo.decodeId, Uuid.read?_write]

theorem accepts_members : ∀ m ∈ l.members, schema.Accepts m.1 m.2.toDocument := by
  have hwritten : ∀ name s, schema.find? (·.name == name) = some (.required name Decoder.text.optional) →
      ∀ m ∈ DeviceInfo.written name s, schema.Accepts m.1 m.2.toDocument := by
    intro name s hf
    cases s with
    | none => exact List.forall_mem_nil _
    | some s => exact List.forall_mem_singleton.mpr (Schema.accepts_of_required _ hf rfl)
  simp only [members, DeviceInfo.members, List.forall_mem_cons, List.forall_mem_append]
  exact ⟨Schema.accepts_of_required Decoder.text rfl rfl, ⟨⟨⟨⟨⟨⟨
    Schema.accepts_of_required DeviceInfo.decodeId rfl (decodeId_write _), List.forall_mem_nil _⟩,
    hwritten "deviceName" _ rfl⟩,
    Schema.accepts_of_required DeviceType.decodeMember rfl (DeviceType.decodeMember_name _),
    Schema.accepts_of_required Decoder.text rfl rfl, List.forall_mem_nil _⟩,
    hwritten "osVersion" _ rfl⟩, hwritten "pushToken" _ rfl⟩, hwritten "location" _ rfl⟩⟩

theorem lookup_members : l.members.lookup "email" = some (.str l.email) ∧
    l.members.lookup "deviceId" = some (.str l.device.deviceId.write) ∧
    l.members.lookup "deviceName" = l.device.deviceName.map .str ∧
    l.members.lookup "deviceType" = some (.str l.device.deviceType.name) ∧
    l.members.lookup "appVersion" = some (.str l.device.appVersion) ∧
    l.members.lookup "osVersion" = l.device.osVersion.map .str ∧
    l.members.lookup "pushToken" = l.device.pushToken.map .str ∧
    l.members.lookup "location" = l.device.location.map .str := by
  simp only [members, DeviceInfo.members]
  cases l.device.deviceName <;> cases l.device.osVersion <;> cases l.device.pushToken <;>
    cases l.device.location <;> exact ⟨rfl, rfl, rfl, rfl, rfl, rfl, rfl, rfl⟩

theorem decode_toDocument : decode (Json.obj l.members).toDocument = .ok l := by
  obtain ⟨row, hrow, hl⟩ := Schema.exists_row l.accepts_members l.nodup_members
  obtain ⟨hemail, hid, hname, htype, happ, hos, htoken, hlocation⟩ := l.lookup_members
  have htext : ∀ name s, l.members.lookup name = Option.map Json.str s → row.text? name = .ok s := by
    intro name s hs
    cases s with
    | none => exact Row.optional_of_missing (by rw [hl, hs]; rfl)
    | some s => exact Row.optional_of_lookup (by rw [hl, hs]; rfl) rfl
  have hfound : ∀ {name v}, l.members.lookup name = some v → row.lookup name = some v.toDocument := by
    intro name v hv
    rw [hl, hv]
    rfl
  rw [decode, Decoder.whole_toDocument, decodeForm]
  simp only [DeviceInfo.ofRow, bind_eq_ok]
  exact ⟨row, hrow, _, Row.required_of_lookup (hfound hemail) rfl, _,
    ⟨_, Row.required_of_lookup (hfound hid) (decodeId_write _), _, htext _ _ hname, _,
      Row.required_of_lookup (hfound htype) (DeviceType.decodeMember_name _), _,
      Row.required_of_lookup (hfound happ) rfl, _, htext _ _ hos, _, htext _ _ htoken, _,
      htext _ _ hlocation, rfl⟩, rfl⟩

theorem read_write : Json.Reader.read l.write = (.obj (Json.textDocuments l.texts), true) := by
  rw [write, ← textMembers_texts]
  exact Json.read_compact_textMembers "email" l.email l.device.texts

theorem read?_write : read? l.write = some l := by
  have hd : decodeText decode l.write = decodeValue decode (Json.obj l.members) := by
    rw [write, ← textMembers_texts]
    exact Json.decodeText_compact_textMembers decode "email" l.email l.device.texts
  rw [read?, hd, decodeValue, decode_toDocument]
  rfl

theorem forall_mem_ne_password : ∀ m ∈ Json.textDocuments l.texts, m.1 ≠ some "password" := by
  intro m hm
  obtain ⟨t, ht, rfl⟩ := List.mem_map.mp hm
  exact fun he ↦ l.name_ne_password t ht (Option.some.inj he)

end StoredLogin

end Backoffice
