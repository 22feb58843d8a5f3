import Mathlib.Data.List.TakeWhile
import Backoffice.Json.Decode
import Backoffice.Proofs.Json.Values
import Backoffice.Record.Role
import Backoffice.Record.User

namespace Backoffice

namespace Text

theorem dropTrailing_eq_nil_iff {p : Char → Bool} {cs : List Char} :
    dropTrailing p cs = [] ↔ ∀ c ∈ cs, p c := by
  rw [dropTrailing, List.reverse_eq_nil_iff, List.dropWhile_eq_nil_iff]
  simp only [List.mem_reverse]

theorem dropWhile_dropTrailing {p : Char → Bool} {cs : List Char} (h : cs.dropWhile p = cs) (q : Char → Bool) :
    (dropTrailing q cs).dropWhile p = dropTrailing q cs := by
  rw [List.dropWhile_eq_self_iff] at h ⊢
  intro hl
  have hp := dropTrailing_isPrefix q cs
  rw [hp.getElem hl]
  exact h (Nat.lt_of_lt_of_le hl hp.length_le)

theorem trim_trim (s : String) : trim (trim s) = trim s := by
  have hd := dropWhile_dropTrailing (dropWhile_dropWhile isBlank s.toList) isBlank
  simp only [trim, String.toList_ofList, trimChars, hd, dropTrailing_dropTrailing]

theorem isBlankText_trim (s : String) : isBlankText (trim s) = isBlankText s := by
  have hd := dropWhile_dropWhile isBlank s.toList
  rw [Bool.eq_iff_iff]
  simp only [isBlankText, trim, String.toList_ofList, trimChars, List.all_eq_true]
  constructor
  · intro h
    rw [← dropTrailing_eq_nil_iff, dropTrailing_dropTrailing, dropTrailing_eq_nil_iff,
      ← List.dropWhile_eq_nil_iff, hd, List.dropWhile_eq_nil_iff] at h
    exact h
  · intro h
    rw [List.dropWhile_eq_nil_iff.mpr h]
    exact nofun

def Trimmed (s : String) : Prop := filled? (some s) = some s

theorem trimmed_of_filled? {s : Option String} {t : String} (h : filled? s = some t) : Trimmed t := by
  cases s with
  | none => cases h
  | some s =>
    simp only [filled?] at h
    split at h
    · cases h
    · next hb =>
      cases h
      rw [Trimmed, filled?, if_neg (by rwa [isBlankText_trim]), trim_trim]

theorem filled?_of_trimmed {s : Option String} (h : ∀ t, s = some t → Trimmed t) : filled? s = s := by
  cases s with
  | none => rfl
  | some t => exact h t rfl

end Text

theorem bind_eq_ok {ε α β : Type} {x : Except ε α} {f : α → Except ε β} {b : β} :
    x >>= f = .ok b ↔ ∃ a, x = .ok a ∧ f a = .ok b := by
  cases x with
  | error e => exact ⟨nofun, nofun⟩
  | ok a => exact ⟨fun h ↦ ⟨a, rfl, h⟩, fun ⟨_, h, hf⟩ ↦ by cases h; exact hf⟩

theorem Decoder.whole_toDocument {α : Type} (dec : Decoder α) (v : Json) :
    whole dec v.toDocument = dec v.toDocument :=
  if_pos (Document.isSome_value?_toDocument v)

open Text

theorem trimmed_of_chooseId? {underscored plain : Option String} {s : String}
    (h : chooseId? underscored plain = some s) : Trimmed s := by
  rw [chooseId?] at h
  cases hu : filled? underscored with
  | some t =>
    rw [hu] at h
    exact trimmed_of_filled? (hu.trans h)
  | none =>
    rw [hu] at h
    exact trimmed_of_filled? h

theorem trimmed_of_chooseId {e : Entity} {underscored plain : Option String} {i : Id e}
    (h : chooseId e underscored plain = .ok i) : Trimmed i.text := by
  rw [chooseId] at h
  split at h
  · next s hs =>
    cases h
    exact trimmed_of_chooseId? hs
  · cases h

theorem chooseId_of_trimmed {e : Entity} {i : Id e} {plain : Option String} (h : Trimmed i.text) :
    chooseId e (some i.text) plain = .ok i := by
  rw [chooseId, chooseId?, h]
  rfl

namespace Embedded

structure Canonical (x : Embedded) : Prop where
  id : ∀ s, x.id = some s → Trimmed s
  name : ∀ s, x.name = some s → Trimmed s

theorem canonical_of_decode {d : Document} {x : Embedded} (h : decode d = .ok x) : x.Canonical := by
  rw [decode, Decoder.whole] at h
  split at h
  · unfold decodeForm at h
    split at h
    · next t _ =>
      cases h
      exact ⟨fun s (hs : filled? (some t) = some s) ↦ trimmed_of_filled? hs, nofun⟩
    · simp only [bind_eq_ok] at h
      obtain ⟨row, -, underscored, -, plain, -, name, -, he⟩ := h
      cases he
      exact ⟨fun s hs ↦ trimmed_of_chooseId? hs, fun s hs ↦ trimmed_of_filled? hs⟩
  · cases h

end Embedded

namespace Reference

variable {e : Entity}

structure Canonical (r : Reference e) : Prop where
  id : Trimmed r.id.text
  name : ∀ s, r.name = some s → Trimmed s

theorem canonical_of_merge {flat : Option String} {embedded : Option Embedded} {r : Reference e}
    (h : ∀ x, embedded = some x → x.Canonical) (hm : merge flat embedded = some r) : r.Canonical := by
  have hname : ∀ s, embedded.bind Embedded.name = some s → Trimmed s := by
    intro s hs
    obtain ⟨x, hx, hn⟩ := Option.bind_eq_some_iff.mp hs
    exact (h x hx).name s hn
  have hid : ∀ s, embedded.bind Embedded.id = some s → Trimmed s := by
    intro s hs
    obtain ⟨x, hx, hn⟩ := Option.bind_eq_some_iff.mp hs
    exact (h x hx).id s hn
  simp only [merge] at hm
  split at hm
  · next f i hf hi =>
    cases hm
    refine ⟨trimmed_of_filled? hf, fun s hs ↦ ?_⟩
    dsimp only at hs
    split at hs
    · exact hname s hs
    · cases hs
  · next f hf hi =>
    cases hm
    exact ⟨trimmed_of_filled? hf, nofun⟩
  · next i hf hi =>
    cases hm
    exact ⟨hid _ hi, hname⟩
  · cases hm

def embedded (r : Reference e) : Embedded := ⟨some r.id.text, r.name⟩

theorem decode_toJson {r : Reference e} (h : r.Canonical) :
    Embedded.decode r.toJson.toDocument = .ok r.embedded := by
  have hid : chooseId? (some r.id.text) none = some r.id.text := by
    rw [chooseId?, h.id]
    rfl
  have hname : filled? r.name = r.name := filled?_of_trimmed h.name
  have hrow : ∃ row, Embedded.schema.readObject r.toJson.toDocument = .ok row ∧
      row.text? "_id" = .ok (some r.id.text) ∧ row.text? "id" = .ok none ∧
      row.text? "name" = .ok r.name := by
    obtain ⟨⟨i⟩, name⟩ := r
    cases name with
    | none => exact ⟨_, rfl, rfl, rfl, rfl⟩
    | some n => exact ⟨_, rfl, rfl, rfl, rfl⟩
  obtain ⟨row, hrow, hunderscored, hplain, htext⟩ := hrow
  rw [Embedded.decode, Decoder.whole_toDocument, toJson, Json.toDocument, Embedded.decodeForm]
  · simp only [bind_eq_ok]
    refine ⟨row, hrow, _, hunderscored, _, hplain, _, htext, ?_⟩
    rw [hid, hname]
    rfl
  · exact nofun

end Reference

namespace Status

def Canonical (s : Status) : Prop := Trimmed s.label ∨ s.label = capitalize s.code

/-- A status as it is read back: without the blanks around its label, if the label is not blank. -/
def reread (s : Status) : Status := ⟨s.code, (filled? (some s.label)).getD s.label⟩

theorem canonical_active : active.Canonical := .inr rfl

theorem canonical_of_decode {d : Document} {s : Status} (h : decode d = .ok s) : s.Canonical := by
  rw [decode, Decoder.whole] at h
  split at h
  · unfold decodeForm at h
    split at h
    · cases h
      exact .inr rfl
    · simp only [bind_eq_ok] at h
      obtain ⟨row, -, code, -, label, -, he⟩ := h
      cases he
      split
      · next l hl => exact .inl (trimmed_of_filled? hl)
      · exact .inr rfl
  · cases h

theorem decode_toJson {s : Status} (h : s.Canonical) : decode s.toJson.toDocument = .ok s.reread := by
  obtain ⟨code, label⟩ := s
  have hrow : ∃ row, schema.readObject (toJson ⟨code, label⟩).toDocument = .ok row ∧
      row.required "code" Decoder.text = .ok code ∧ row.text? "label" = .ok (some label) :=
    ⟨_, rfl, rfl, rfl⟩
  obtain ⟨row, hrow, hcode, hlabel⟩ := hrow
  rw [decode, Decoder.whole_toDocument, toJson, Json.toDocument, decodeForm]
  · simp only [bind_eq_ok]
    refine ⟨row, hrow, _, hcode, _, hlabel, congrArg Except.ok ?_⟩
    cases hf : filled? (some label) with
    | some l => simp only [reread, hf, Option.getD_some]
    | none =>
      simp only [reread, hf, Option.getD_none]
      rcases h with h | h
      · rw [Trimmed, hf] at h
        cases h
      · rw [ofCode, ← h]
  · exact nofun

theorem reread_eq_iff (s : Status) :
    s.reread = s ↔ isBlankText s.label = true ∨ trim s.label = s.label := by
  obtain ⟨code, label⟩ := s
  simp only [reread, mk.injEq, true_and, filled?]
  cases isBlankText label <;> simp

end Status

theorem Image.decodeEmbedded_toJson (i : Image) : decodeEmbedded i.toJson.toDocument = .ok i := by
  obtain ⟨fileName, width, height, ratio, mime⟩ := i
  rw [decodeEmbedded, Decoder.whole_toDocument]
  cases fileName <;> cases width <;> cases height <;> cases ratio <;> cases mime <;> rfl

theorem Decoder.null_or_of_optional {α : Type} {dec : Decoder α} {d : Document} {x : Option α}
    (h : dec.optional d = .ok x) : (x = none ∧ d = .null) ∨ ∃ a, x = some a ∧ dec d = .ok a := by
  unfold optional at h
  split at h
  · exact .inl ⟨(Except.ok.inj h).symm, rfl⟩
  · cases hd : dec d with
    | ok a =>
      rw [hd] at h
      exact .inr ⟨a, (Except.ok.inj h).symm, rfl⟩
    | error e =>
      rw [hd] at h
      cases h

namespace Row

variable {α : Type} {row : Row} {name : String} {dec : Decoder α}

theorem exists_of_optional {a : α} (h : row.optional name dec = .ok (some a)) : ∃ d, dec d = .ok a := by
  simp only [optional, withDefault] at h
  split at h
  · next d _ =>
    rcases Decoder.null_or_of_optional h with ⟨hn, -⟩ | ⟨b, hb, hd⟩
    · cases hn
    · exact ⟨d, Option.some.inj hb ▸ hd⟩
  · cases h

theorem optional_of_lookup {d : Document} {a : Option α} (h : row.lookup name = some d)
    (hd : dec.optional d = .ok a) : row.optional name dec = .ok a := by
  simp only [optional, withDefault, h, hd]

theorem optional_of_missing (h : row.lookup name = none) : row.optional name dec = .ok none := by
  simp only [optional, withDefault, h]

end Row

theorem Decoder.optional_ofOption {α β : Type} {dec : Decoder α} {f : β → Json} {g : β → α}
    {x : Option β} (h : ∀ b, x = some b → dec.optional (f b).toDocument = .ok (some (g b))) :
    dec.optional (Json.ofOption f x).toDocument = .ok (x.map g) := by
  cases x with
  | none => rfl
  | some b => exact h b rfl

theorem Status.optional_toJson {s : Status} (h : s.Canonical) :
    decode.optional s.toJson.toDocument = .ok (some s.reread) :=
  congrArg (Except.map some) (decode_toJson h)

theorem Reference.optional_toJson {e : Entity} {r : Option (Reference e)}
    (h : ∀ x, r = some x → x.Canonical) :
    Embedded.decode.optional (Json.ofOption toJson r).toDocument = .ok (r.map embedded) :=
  Decoder.optional_ofOption fun x hx ↦ congrArg (Except.map some) (decode_toJson (h x hx))

theorem Reference.merge_map_embedded {e : Entity} (r : Option (Reference e)) :
    merge none (r.map embedded) = r := by
  cases r <;> rfl

theorem Image.optional_toJson (i : Option Image) :
    decodeEmbedded.optional (Json.ofOption toJson i).toDocument = .ok i := by
  cases i with
  | none => rfl
  | some x => exact congrArg (Except.map some) (decodeEmbedded_toJson x)

theorem Status.canonical_getD {row : Row} {status : Option Status}
    (h : row.optional "status" decode = .ok status) : (status.getD active).Canonical := by
  cases status with
  | none => exact canonical_active
  | some s =>
    obtain ⟨d, hd⟩ := Row.exists_of_optional h
    exact canonical_of_decode hd

namespace Role

structure Canonical (r : Role) : Prop where
  id : Trimmed r.id.text
  description : ∀ s, r.description = some s → Trimmed s
  permissions : r.permissions.toDocument.value? = some r.permissions
  status : r.status.Canonical

theorem canonical_of_decode {d : Document} {r : Role} (h : decode d = .ok r) : r.Canonical := by
  simp only [decode, bind_eq_ok] at h
  obtain ⟨row, -, underscored, -, plain, -, name, -, description, -, permissions, hp, status, hs, id, hi,
    he⟩ := h
  cases he
  refine ⟨trimmed_of_chooseId hi, fun s hs ↦ trimmed_of_filled? hs, ?_, ?_⟩
  · simp only [Row.withDefault, Decoder.any] at hp
    split at hp
    · split at hp
      · next v hv =>
        cases hp
        exact Document.value?_toDocument hv
      · cases hp
    · cases hp
      rfl
  · exact Status.canonical_getD hs

def members (r : Role) : List (String × Json) :=
  [("_id", .str r.id.text)] ++
    (match r.description with | some d => [("description", .str d)] | none => []) ++
    [("name", .str r.name), ("permissions", r.permissions), ("status", r.status.toJson)]

theorem toJson_eq (r : Role) : r.toJson = .obj r.members := rfl

theorem accepts_members {r : Role} (h : r.Canonical) :
    ∀ m ∈ r.members, schema.Accepts m.1 m.2.toDocument := by
  have hany : Decoder.any r.permissions.toDocument = .ok r.permissions := by
    rw [Decoder.any, h.permissions]
  have hdescription : ∀ m ∈ (match r.description with | some d => [("description", Json.str d)] | none => []),
      schema.Accepts m.1 m.2.toDocument := by
    cases r.description with
    | none => exact List.forall_mem_nil _
    | some d =>
      exact List.forall_mem_singleton.mpr (Schema.accepts_of Decoder.text.optional rfl rfl)
  simp only [members, List.forall_mem_append, List.forall_mem_cons]
  exact ⟨⟨⟨Schema.accepts_of Decoder.text.optional rfl rfl, List.forall_mem_nil _⟩, hdescription⟩,
    Schema.accepts_of Decoder.text rfl rfl, Schema.accepts_of Decoder.any rfl hany,
    Schema.accepts_of Status.decode.optional rfl (Status.optional_toJson h.status), List.forall_mem_nil _⟩

theorem nodup_members (r : Role) : (r.members.map Prod.fst).Nodup := by
  unfold members
  cases r.description <;> simp

/-- A canonical role is read back, except for blanks around the label of its status. -/
theorem decode_toJson {r : Role} (h : r.Canonical) :
    decodeValue decode r.toJson = .ok { r with status := r.status.reread } := by
  obtain ⟨row, hrow, hl⟩ := Schema.exists_row (accepts_members h) r.nodup_members
  have hfound : row.lookup "id" = none ∧ row.lookup "name" = some (.str r.name) ∧
      row.lookup "description" = r.description.map .str ∧
      row.lookup "permissions" = some r.permissions.toDocument ∧
      row.lookup "status" = some r.status.toJson.toDocument := by
    simp only [hl, members]
    cases r.description <;> exact ⟨rfl, rfl, rfl, rfl, rfl⟩
  obtain ⟨hplain, hname, hdescription, hpermissions, hstatus⟩ := hfound
  have hwritten : row.text? "description" = .ok r.description := by
    cases hd : r.description with
    | none => exact Row.optional_of_missing (by rw [hdescription, hd]; rfl)
    | some d => exact Row.optional_of_lookup (by rw [hdescription, hd]; rfl) rfl
  have hfilled := filled?_of_trimmed h.description
  simp only [decodeValue, toJson_eq, Json.toDocument, decode, bind_eq_ok]
  refine ⟨row, hrow, _, Row.optional_of_lookup (hl "_id") rfl, _, Row.optional_of_missing hplain, r.name, ?_,
    _, hwritten, r.permissions, ?_, _,
    Row.optional_of_lookup hstatus (Status.optional_toJson h.status), _, chooseId_of_trimmed h.id, ?_⟩
  · simp only [Row.withDefault, hname, Decoder.text]
  · simp only [Row.withDefault, hpermissions, Decoder.any, h.permissions]
  · rw [hfilled]
    rfl

theorem decode_toJson_eq_iff {r : Role} (h : r.Canonical) :
    decodeValue decode r.toJson = .ok r ↔ r.status.reread = r.status := by
  rw [decode_toJson h]
  constructor
  · intro he
    exact congrArg status (Except.ok.inj he)
  · intro he
    rw [he]

end Role

namespace AdminUser

structure Canonical (u : AdminUser) : Prop where
  id : Trimmed u.id.text
  country : ∀ i, u.countryId = some i → Trimmed i.text
  role : ∀ r, u.role = some r → r.Canonical
  status : u.status.Canonical
  client : ∀ r, u.client = some r → r.Canonical
  businessUnit : ∀ r, u.businessUnit = some r → r.Canonical

theorem canonical_of_embedded {row : Row} {name : String} {x : Option Embedded}
    (h : row.optional name Embedded.decode = .ok x) : ∀ e, x = some e → e.Canonical := by
  rintro e rfl
  obtain ⟨d, hd⟩ := Row.exists_of_optional h
  exact Embedded.canonical_of_decode hd

theorem canonical_of_decode {d : Document} {u : AdminUser} (h : decode d = .ok u) : u.Canonical := by
  simp only [decode, ofRow, bind_eq_ok] at h
  obtain ⟨row, -, underscored, -, plain, -, firstName, -, lastName, -, email, -, mobileNumber, -, isdCode, -,
    countryId, -, isdCodeCountryId, -, role, hr, status, hs, clientId, -, client, hc, unitId, -, unit, hb,
    image, -, id, hi, he⟩ := h
  cases he
  exact {
    id := trimmed_of_chooseId hi
    country := by
      intro i hi
      obtain ⟨s, hs, rfl⟩ := Option.map_eq_some_iff.mp hi
      exact trimmed_of_chooseId? hs
    role := fun r ↦ Reference.canonical_of_merge (canonical_of_embedded hr)
    status := Status.canonical_getD hs
    client := fun r ↦ Reference.canonical_of_merge (canonical_of_embedded hc)
    businessUnit := fun r ↦ Reference.canonical_of_merge (canonical_of_embedded hb) }

theorem optional_country (i : Option (Id .country)) :
    Decoder.text.optional (Json.ofOption (fun i ↦ .str i.text) i).toDocument = .ok (i.map Id.text) := by
  cases i <;> rfl

def members (u : AdminUser) : List (String × Json) := [
  ("_id", .str u.id.text), ("businessUnit", Json.ofOption Reference.toJson u.businessUnit),
  ("client", Json.ofOption Reference.toJson u.client),
  ("countryId", Json.ofOption (fun i ↦ .str i.text) u.countryId), ("email", .str u.email),
  ("firstName", .str u.firstName), ("image", Json.ofOption Image.toJson u.image),
  ("isdCode", .str u.isdCode), ("lastName", .str u.lastName),
  ("mobileNumber", .str u.mobileNumber), ("role", Json.ofOption Reference.toJson u.role),
  ("status", u.status.toJson)]

theorem toJson_eq (u : AdminUser) : u.toJson = .obj u.members := rfl

theorem accepts_members {u : AdminUser} (h : u.Canonical) :
    ∀ m ∈ u.members, schema.Accepts m.1 m.2.toDocument := by
  have text : ∀ name s, schema.find? (·.name == name) = some (.of name Decoder.text.optional) →
      schema.Accepts name (Json.str s).toDocument := fun name s hf ↦ Schema.accepts_of _ hf rfl
  simp only [members, List.forall_mem_cons]
  exact ⟨text _ _ rfl,
    Schema.accepts_of Embedded.decode.optional rfl (Reference.optional_toJson h.businessUnit),
    Schema.accepts_of Embedded.decode.optional rfl (Reference.optional_toJson h.client),
    Schema.accepts_of Decoder.text.optional rfl (optional_country u.countryId),
    text _ _ rfl, text _ _ rfl,
    Schema.accepts_of Image.decodeEmbedded.optional rfl (Image.optional_toJson u.image),
    text _ _ rfl, text _ _ rfl, text _ _ rfl,
    Schema.accepts_of Embedded.decode.optional rfl (Reference.optional_toJson h.role),
    Schema.accepts_of Status.decode.optional rfl (Status.optional_toJson h.status), List.forall_mem_nil _⟩

theorem nodup_members (u : AdminUser) : (u.members.map Prod.fst).Nodup := by
  simp [members]

theorem decode_toJson {u : AdminUser} (h : u.Canonical) :
    decodeValue decode u.toJson = .ok { u with status := u.status.reread } := by
  obtain ⟨row, hrow, hl⟩ := Schema.exists_row (accepts_members h) u.nodup_members
  have hcountry : (chooseId? (u.countryId.map Id.text) none).map Id.mk = u.countryId := by
    cases hc : u.countryId with
    | none => rfl
    | some i => rw [Option.map_some, chooseId?, h.country i hc]; rfl
  simp only [decodeValue, toJson_eq, Json.toDocument, decode, ofRow, bind_eq_ok]
  refine ⟨row, hrow, _, Row.optional_of_lookup (hl "_id") rfl, _, Row.optional_of_missing (hl "id"),
    _, Row.optional_of_lookup (hl "firstName") rfl, _, Row.optional_of_lookup (hl "lastName") rfl,
    _, Row.optional_of_lookup (hl "email") rfl, _, Row.optional_of_lookup (hl "mobileNumber") rfl,
    _, Row.optional_of_lookup (hl "isdCode") rfl,
    _, Row.optional_of_lookup (hl "countryId") (optional_country u.countryId),
    _, Row.optional_of_missing (hl "isdCodeCountryId"),
    _, Row.optional_of_lookup (hl "role") (Reference.optional_toJson h.role),
    _, Row.optional_of_lookup (hl "status") (Status.optional_toJson h.status),
    _, Row.optional_of_missing (hl "clientId"),
    _, Row.optional_of_lookup (hl "client") (Reference.optional_toJson h.client),
    _, Row.optional_of_missing (hl "businessUnitId"),
    _, Row.optional_of_lookup (hl "businessUnit") (Reference.optional_toJson h.businessUnit),
    _, Row.optional_of_lookup (hl "image") (Image.optional_toJson u.image),
    _, chooseId_of_trimmed h.id, ?_⟩
  rw [hcountry, Reference.merge_map_embedded, Reference.merge_map_embedded, Reference.merge_map_embedded]
  rfl

theorem decode_toJson_eq_iff {u : AdminUser} (h : u.Canonical) :
    decodeValue decode u.toJson = .ok u ↔ u.status.reread = u.status := by
  rw [decode_toJson h]
  constructor
  · intro he
    exact congrArg status (Except.ok.inj he)
  · intro he
    rw [he]

end AdminUser

theorem Status.label_of_reread_ne {s : Status} (h : s.Canonical) (hne : s.reread ≠ s) :
    s.label = capitalize s.code := by
  rcases h with h | h
  · refine absurd ?_ hne
    rw [reread, h]
    rfl
  · exact h

/-- A user or a role that was decoded, whatever it was decoded from, is read back from what it is written
as, with all that it holds, except that the label of its status is trimmed. So it is read back as it was
just if that label is trimmed or blank. A label is neither only if it was made from a code with blanks
around it. -/
theorem decode_toJson_of_decode (d : Document) :
    (∀ u, AdminUser.decode d = .ok u →
      decodeValue AdminUser.decode u.toJson = .ok { u with status := u.status.reread } ∧
      (decodeValue AdminUser.decode u.toJson = .ok u ↔
        isBlankText u.status.label = true ∨ trim u.status.label = u.status.label) ∧
      (decodeValue AdminUser.decode u.toJson ≠ .ok u → u.status.label = capitalize u.status.code)) ∧
    (∀ r, Role.decode d = .ok r →
      decodeValue Role.decode r.toJson = .ok { r with status := r.status.reread } ∧
      (decodeValue Role.decode r.toJson = .ok r ↔
        isBlankText r.status.label = true ∨ trim r.status.label = r.status.label) ∧
      (decodeValue Role.decode r.toJson ≠ .ok r → r.status.label = capitalize r.status.code)) := by
  constructor
  · intro u hu
    have hc := AdminUser.canonical_of_decode hu
    have heq := AdminUser.decode_toJson_eq_iff hc
    exact ⟨AdminUser.decode_toJson hc, heq.trans (Status.reread_eq_iff _),
      fun hne ↦ Status.label_of_reread_ne hc.status fun h ↦ hne (heq.mpr h)⟩
  · intro r hr
    have hc := Role.canonical_of_decode hr
    have heq := Role.decode_toJson_eq_iff hc
    exact ⟨Role.decode_toJson hc, heq.trans (Status.reread_eq_iff _),
      fun hne ↦ Status.label_of_reread_ne hc.status fun h ↦ hne (heq.mpr h)⟩

/-- A code with a blank after it makes a label with one, and the label that is read back has none. -/
theorem decode_toJson_of_decode_of_blank_after_code :
    let d : Document := .obj [(some "_id", .str "u1"), (some "status", .str "active ")]
    ∃ u r, AdminUser.decode d = .ok u ∧ u.status = ⟨"active ", "Active "⟩ ∧
      decodeValue AdminUser.decode u.toJson ≠ .ok u ∧
      Role.decode d = .ok r ∧ r.status = u.status ∧ decodeValue Role.decode r.toJson ≠ .ok r := by
  intro d
  have hlabel : ¬ (isBlankText "Active " = true ∨ trim "Active " = "Active ") := by decide
  obtain ⟨huser, hrole⟩ := decode_toJson_of_decode d
  refine ⟨_, _, rfl, rfl, fun h ↦ ?_, rfl, rfl, fun h ↦ ?_⟩
  · exact hlabel ((huser _ rfl).2.1.mp h)
  · exact hlabel ((hrole _ rfl).2.1.mp h)

end Backoffice
