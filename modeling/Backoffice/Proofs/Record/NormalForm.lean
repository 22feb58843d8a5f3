import Mathlib.Data.List.Nodup
import Backoffice.Proofs.Json.Texts
import Backoffice.Proofs.Record.References
import Backoffice.Record.Client
import Backoffice.Record.Country

namespace Backoffice

namespace Text

/-- The first of some texts that is there and not blank, without the blanks around it. -/
def FirstFilled (texts : List (Option String)) (t : String) : Prop :=
  ∃ before s after, texts = before ++ some s :: after ∧ (∀ b, some b ∈ before → isBlankText b) ∧
    ¬ isBlankText s ∧ t = trim s

variable {texts : List (Option String)} {x : Option String} {t : String}

theorem filled?_eq_some_iff : filled? x = some t ↔ ∃ s, x = some s ∧ ¬ isBlankText s ∧ t = trim s := by
  cases x with
  | none => simp [filled?]
  | some s =>
    rw [filled?]
    by_cases hb : isBlankText s
    · simp [hb]
    · simp [hb, eq_comm (a := t)]

theorem filled?_eq_none_iff : filled? x = none ↔ ∀ s, x = some s → isBlankText s := by
  cases x with
  | none => simp [filled?]
  | some s => simp [filled?]

theorem findSome?_filled?_iff : texts.findSome? filled? = some t ↔ FirstFilled texts t := by
  rw [List.findSome?_eq_some_iff]
  constructor
  · rintro ⟨before, x, after, rfl, hx, hbefore⟩
    obtain ⟨s, rfl, hs, rfl⟩ := filled?_eq_some_iff.mp hx
    exact ⟨before, s, after, rfl, fun b hb ↦ filled?_eq_none_iff.mp (hbefore _ hb) b rfl, hs, rfl⟩
  · rintro ⟨before, s, after, rfl, hbefore, hs, rfl⟩
    refine ⟨before, some s, after, rfl, filled?_eq_some_iff.mpr ⟨s, rfl, hs, rfl⟩, fun x hx ↦ ?_⟩
    exact filled?_eq_none_iff.mpr fun b hb ↦ hbefore b (hb ▸ hx)

theorem FirstFilled.unique {u : String} (ht : FirstFilled texts t) (hu : FirstFilled texts u) : t = u :=
  Option.some.inj ((findSome?_filled?_iff.mpr ht).symm.trans (findSome?_filled?_iff.mpr hu))

theorem FirstFilled.trimmed (h : FirstFilled texts t) : Trimmed t := by
  obtain ⟨_, s, _, _, _, hs, rfl⟩ := h
  exact trimmed_of_filled? (filled?_eq_some_iff.mpr ⟨s, rfl, hs, rfl⟩)

end Text

open Text

theorem chooseId?_eq_findSome? (underscored plain : Option String) :
    chooseId? underscored plain = [underscored, plain].findSome? filled? := by
  rw [chooseId?_eq_or]
  cases hu : filled? underscored <;> cases hp : filled? plain <;> simp [hu, hp]

theorem chooseId_eq_ok_iff {e : Entity} {underscored plain : Option String} {i : Id e} :
    chooseId e underscored plain = .ok i ↔ FirstFilled [underscored, plain] i.text := by
  rw [← findSome?_filled?_iff, ← chooseId?_eq_findSome?, chooseId]
  obtain ⟨t⟩ := i
  cases chooseId? underscored plain <;> simp

theorem blank_of_chooseId {e : Entity} {underscored plain : Option String} {err : DecodeError}
    (h : chooseId e underscored plain = .error err) : filled? underscored = none ∧ filled? plain = none := by
  rw [chooseId, chooseId?_eq_or] at h
  split at h
  · cases h
  · next ho => exact Option.or_eq_none_iff.mp ho

theorem chooseId_of_blank {e : Entity} {underscored plain : Option String} (hu : filled? underscored = none)
    (hp : filled? plain = none) : chooseId e underscored plain = .error (.unidentified e) := by
  rw [chooseId, chooseId?_eq_or, hu, hp]
  rfl

abbrev Members := List (Option String × Document)

namespace Members

variable {members : Members} {nullable plain : List String} {name : String}

def text? (members : Members) (name : String) : Option String :=
  match members.lookup (some name) with
  | some (.str s) => some s
  | _ => none

def Lacks (members : Members) (name : String) : Prop :=
  ∀ d, members.lookup (some name) = some d → d = .null ∨ ∃ s, d = .str s ∧ isBlankText s

def Nameless (members : Members) : Prop := members.Lacks "_id" ∧ members.Lacks "id"

/-- An object that can be read, with texts under the names that are known, each once at most. Some of them may be
null; under other names there may be anything. -/
structure WellTyped (nullable plain : List String) (members : Members) : Prop where
  sound : ∀ m ∈ members, m.1.isSome ∧ m.2.sound
  nullables : ∀ name ∈ nullable, ∀ d, (some name, d) ∈ members → d = .null ∨ ∃ s, d = .str s
  plains : ∀ name ∈ plain, ∀ d, (some name, d) ∈ members → ∃ s, d = .str s
  once : ∀ name ∈ nullable ++ plain, (members.map Prod.fst).count (some name) ≤ 1

theorem mem_of_lookup {d : Document} (h : members.lookup (some name) = some d) : (some name, d) ∈ members := by
  obtain ⟨before, after, rfl, -⟩ := List.lookup_eq_some_iff.mp h
  exact List.mem_append_right _ List.mem_cons_self

theorem WellTyped.lacks_iff (h : members.WellTyped nullable plain) (hn : name ∈ nullable) :
    members.Lacks name ↔ filled? (members.text? name) = none := by
  rw [Lacks, text?, filled?_eq_none_iff]
  cases hl : members.lookup (some name) with
  | none => simp
  | some d => rcases h.nullables name hn d (mem_of_lookup hl) with rfl | ⟨s, rfl⟩ <;> simp

end Members

namespace Schema

variable {schema : Schema} {members : Members} {nullable plain : List String} {name : String}

structure OfTexts (nullable plain : List String) (schema : Schema) : Prop where
  nullables : ∀ name ∈ nullable, schema.find? (·.name == name) = some (.of name Decoder.text.optional)
  plains : ∀ name ∈ plain, schema.find? (·.name == name) = some (.of name Decoder.text)
  known : ∀ f ∈ schema, f.name ∈ nullable ++ plain

theorem name_of_find? {f : Field} (h : schema.find? (·.name == name) = some f) : f.name = name := by
  simpa using List.find?_some h

namespace OfTexts

theorem knows_iff (h : schema.OfTexts nullable plain) : schema.Knows name ↔ name ∈ nullable ++ plain := by
  constructor
  · intro hk
    obtain ⟨f, hf⟩ := Option.isSome_iff_exists.mp hk
    rw [← name_of_find? hf]
    exact h.known f (List.mem_of_find?_eq_some hf)
  · intro hm
    rw [Knows]
    rcases List.mem_append.mp hm with hm | hm
    · rw [h.nullables name hm]
      rfl
    · rw [h.plains name hm]
      rfl

theorem passes (h : schema.OfTexts nullable plain) (hm : members.WellTyped nullable plain) {d : Document}
    (hd : (some name, d) ∈ members) : schema.Passes name d := by
  intro f hf
  have hk : schema.Knows name := by rw [Knows, hf]; rfl
  rcases List.mem_append.mp (h.knows_iff.mp hk) with hn | hn
  · cases hf.symm.trans (h.nullables name hn)
    rcases hm.nullables name hn d hd with rfl | ⟨s, rfl⟩ <;> rfl
  · cases hf.symm.trans (h.plains name hn)
    obtain ⟨s, rfl⟩ := hm.plains name hn d hd
    rfl

theorem exists_row (h : schema.OfTexts nullable plain) (hm : members.WellTyped nullable plain) :
    ∃ row, schema.read (.obj members) = .ok row ∧ (∀ name ∈ nullable, row.text? name = .ok (members.text? name)) ∧
      ∀ name ∈ plain, row.withDefault name Decoder.text "" = .ok ((members.text? name).getD "") := by
  obtain ⟨row, hrow⟩ : ∃ row, schema.readMembers [] members = .ok row :=
    exists_readMembers_of_sound hm.sound (fun _ _ ↦ h.passes hm) (fun name hk ↦ hm.once name (h.knows_iff.mp hk))
      fun _ _ _ _ ↦ rfl
  have hlookup : ∀ name ∈ nullable ++ plain, row.lookup name = members.lookup (some name) :=
    fun name hn ↦ lookup_of_readMembers hrow (h.knows_iff.mpr hn)
  refine ⟨row, hrow, fun name hn ↦ ?_, fun name hn ↦ ?_⟩
  · rw [Row.text?, Row.optional, Row.withDefault, hlookup name (List.mem_append_left _ hn), Members.text?]
    cases hl : members.lookup (some name) with
    | none => rfl
    | some d => rcases hm.nullables name hn d (Members.mem_of_lookup hl) with rfl | ⟨s, rfl⟩ <;> rfl
  · rw [Row.withDefault, hlookup name (List.mem_append_right _ hn), Members.text?]
    cases hl : members.lookup (some name) with
    | none => rfl
    | some d =>
      obtain ⟨s, rfl⟩ := hm.plains name hn d (Members.mem_of_lookup hl)
      rfl

end OfTexts

end Schema

namespace Members

theorem lookup_textDocuments (ms : List (String × String)) (name : String) :
    (Json.textDocuments ms).lookup (some name) = (ms.lookup name).map .str := by
  induction ms with
  | nil => rfl
  | cons m rest ih =>
    obtain ⟨k, v⟩ := m
    by_cases he : name = k
    · simp [Json.textDocuments, he]
    · rw [Json.textDocuments, List.map_cons, List.lookup_cons, List.lookup_cons, beq_eq_false_iff_ne.mpr he,
        beq_eq_false_iff_ne.mpr fun hs ↦ he (Option.some.inj hs)]
      exact ih

theorem text?_textDocuments (ms : List (String × String)) (name : String) :
    Members.text? (Json.textDocuments ms) name = ms.lookup name := by
  rw [text?, lookup_textDocuments]
  cases ms.lookup name <;> rfl

theorem wellTyped_textDocuments {ms : List (String × String)} (hn : (ms.map Prod.fst).Nodup)
    (nullable plain : List String) : WellTyped nullable plain (Json.textDocuments ms) := by
  have hstr : ∀ name d, (some name, d) ∈ Json.textDocuments ms → ∃ s, d = .str s := by
    intro name d hd
    obtain ⟨m, -, he⟩ := List.mem_map.mp hd
    exact ⟨m.2, (Prod.mk.inj he).2.symm⟩
  refine ⟨fun m hm ↦ ?_, fun name _ d hd ↦ .inr (hstr name d hd), fun name _ d hd ↦ hstr name d hd, fun name _ ↦ ?_⟩
  · obtain ⟨t, -, rfl⟩ := List.mem_map.mp hm
    exact ⟨rfl, rfl⟩
  · have hkeys : (Json.textDocuments ms).map Prod.fst = (ms.map Prod.fst).map some := by
      simp [Json.textDocuments, Function.comp_def]
    rw [hkeys]
    exact List.nodup_iff_count_le_one.mp (hn.map fun _ _ he ↦ Option.some.inj he) _

/-- How a kind of record is decoded from an object. One without an identifier is refused as such; any other is read
and goes by the first of its identifiers that is not blank. It is in the normal form of its kind, and it is the same
when it is read back, as a value or as a text. -/
structure Normalizes {α : Type} (e : Entity) (decode : Decoder α) (toJson : α → Json) (id : α → Id e)
    (normal : α → Prop) (members : Members) : Prop where
  refused : members.Nameless → decode (.obj members) = .error (.unidentified e)
  read : ¬ members.Nameless → ∃ r, decode (.obj members) = .ok r ∧
    FirstFilled [members.text? "_id", members.text? "id"] (id r).text ∧ normal r ∧
    decodeValue decode (toJson r) = .ok r ∧ decodeText decode (toJson r).compact = .ok r

/-- It is enough that a record is made of the chosen identifier, and that it is read back if that is in order. -/
theorem Normalizes.of_build {α : Type} {e : Entity} {decode : Decoder α} {toJson : α → Json} {id : α → Id e}
    {normal : α → Prop} {members : Members} {nullable plain : List String} (build : Id e → α)
    (texts : α → List (String × String)) (hm : members.WellTyped nullable plain) (hids : ["_id", "id"] ⊆ nullable)
    (hd : decode (.obj members) = (chooseId e (members.text? "_id") (members.text? "id")).map build)
    (hid : ∀ i, id (build i) = i) (hn : ∀ i, normal (build i))
    (ht : ∀ r, toJson r = .obj (Json.textMembers (("_id", (id r).text) :: texts r)))
    (hback : ∀ i, Trimmed i.text → decode (.obj (Json.textDocuments (("_id", i.text) :: texts (build i)))) =
      .ok (build i)) : Normalizes e decode toJson id normal members := by
  have hnameless : members.Nameless ↔
      filled? (members.text? "_id") = none ∧ filled? (members.text? "id") = none :=
    and_congr (hm.lacks_iff (hids (by simp))) (hm.lacks_iff (hids (by simp)))
  refine ⟨fun h ↦ ?_, fun h ↦ ?_⟩
  · obtain ⟨hu, hp⟩ := hnameless.mp h
    rw [hd, chooseId_of_blank hu hp]
    rfl
  · cases hc : chooseId e (members.text? "_id") (members.text? "id") with
    | error err => exact absurd (hnameless.mpr (blank_of_chooseId hc)) h
    | ok i =>
      have hfirst := chooseId_eq_ok_iff.mp hc
      have hvalue : decodeValue decode (toJson (build i)) = .ok (build i) := by
        rw [ht, hid, decodeValue, Json.toDocument, Json.toMembers_textMembers]
        exact hback i hfirst.trimmed
      refine ⟨build i, by rw [hd, hc]; rfl, by rwa [hid], hn i, hvalue, ?_⟩
      rw [ht, Json.decodeText_compact_textMembers, ← ht]
      exact hvalue

end Members

open Members

variable {members : Members}

namespace Country

def nullable : List String := ["_id", "id", "alpha2", "flag"]

def plain : List String := ["name", "isdCode"]

theorem schema_ofTexts : schema.OfTexts nullable plain where
  nullables := by
    simp only [nullable, List.forall_mem_cons]
    exact ⟨rfl, rfl, rfl, rfl, List.forall_mem_nil _⟩
  plains := by
    simp only [plain, List.forall_mem_cons]
    exact ⟨rfl, rfl, List.forall_mem_nil _⟩
  known := by decide

theorem decode_obj (h : members.WellTyped nullable plain) : decode (.obj members) =
    (chooseId .country (members.text? "_id") (members.text? "id")).map fun i ↦
      ⟨i, (members.text? "name").getD "", (members.text? "isdCode").getD "", filled? (members.text? "alpha2"),
        (members.text? "flag").getD ""⟩ := by
  obtain ⟨row, hrow, hn, hp⟩ := schema_ofTexts.exists_row h
  simp only [nullable, plain, List.forall_mem_cons] at hn hp
  obtain ⟨hunderscored, hplain, halpha, hflag, -⟩ := hn
  obtain ⟨hname, hisd, -⟩ := hp
  simp only [decode, hrow, hunderscored, hplain, halpha, hflag, hname, hisd, bind, Except.bind]
  cases chooseId .country (members.text? "_id") (members.text? "id") <;> rfl

def texts (c : Country) : List (String × String) :=
  c.alpha2.toList.map (fun a ↦ ("alpha2", a)) ++ [("flag", c.flag), ("isdCode", c.isdCode), ("name", c.name)]

theorem toJson_eq (c : Country) : c.toJson = .obj (Json.textMembers (("_id", c.id.text) :: c.texts)) := by
  obtain ⟨id, name, isdCode, alpha2, flag⟩ := c
  cases alpha2 <;> rfl

theorem decode_texts {c : Country} (hi : Trimmed c.id.text) (ha : ∀ a, c.alpha2 = some a → Trimmed a) :
    decode (.obj (Json.textDocuments (("_id", c.id.text) :: c.texts))) = .ok c := by
  have hn : ((("_id", c.id.text) :: c.texts).map Prod.fst).Nodup := by
    unfold texts
    cases c.alpha2 <;> simp
  obtain ⟨id, name, isdCode, alpha2, flag⟩ := c
  have hfound : ∀ texts, texts = ("_id", id.text) :: Country.texts ⟨id, name, isdCode, alpha2, flag⟩ →
      texts.lookup "_id" = some id.text ∧ texts.lookup "name" = some name ∧ texts.lookup "isdCode" = some isdCode ∧
        texts.lookup "alpha2" = alpha2 ∧ texts.lookup "flag" = some flag := by
    rintro _ rfl
    cases alpha2 <;> exact ⟨rfl, rfl, rfl, rfl, rfl⟩
  obtain ⟨hunderscored, hname, hisd, halpha, hflag⟩ := hfound _ rfl
  rw [decode_obj (wellTyped_textDocuments hn _ _)]
  simp only [text?_textDocuments, hunderscored, hname, hisd, halpha, hflag, chooseId_of_trimmed hi,
    filled?_of_trimmed ha]
  rfl

/-- A country in normal form, as the texts of an object tell it. It has a two-letter code just if there is one that is
not blank, and then without the blanks around it; other texts are taken as they are, or empty if they are missing. -/
structure Normal (members : Members) (c : Country) : Prop where
  name : c.name = (members.text? "name").getD ""
  isdCode : c.isdCode = (members.text? "isdCode").getD ""
  alpha2 : ∀ a, c.alpha2 = some a ↔ FirstFilled [members.text? "alpha2"] a
  trimmed : ∀ a, c.alpha2 = some a → Trimmed a
  flag : c.flag = (members.text? "flag").getD ""

theorem normalizes (h : members.WellTyped nullable plain) :
    Normalizes .country decode toJson id (Normal members) members := by
  have halpha : ∀ a, filled? (members.text? "alpha2") = some a ↔ FirstFilled [members.text? "alpha2"] a := fun a ↦ by
    rw [← findSome?_filled?_iff, List.findSome?_singleton]
  exact .of_build _ texts h (by decide) (decode_obj h) (fun _ ↦ rfl)
    (fun _ ↦ ⟨rfl, rfl, halpha, fun _ ↦ trimmed_of_filled?, rfl⟩) toJson_eq
    fun i hi ↦ decode_texts (c := ⟨i, _, _, _, _⟩) hi fun _ ↦ trimmed_of_filled?

end Country

namespace ClientOption

def nullable : List String := ["_id", "id", "name", "firstName", "lastName", "companyName"]

theorem schema_ofTexts : schema.OfTexts nullable [] where
  nullables := by
    simp only [nullable, List.forall_mem_cons]
    exact ⟨rfl, rfl, rfl, rfl, rfl, rfl, List.forall_mem_nil _⟩
  plains := List.forall_mem_nil _
  known := by decide

theorem decode_obj (h : members.WellTyped nullable []) : decode (.obj members) =
    (chooseId .client (members.text? "_id") (members.text? "id")).map fun i ↦
      ⟨i, chooseName (members.text? "firstName") (members.text? "lastName") (members.text? "companyName")
        (members.text? "name")⟩ := by
  obtain ⟨row, hrow, hn, -⟩ := schema_ofTexts.exists_row h
  simp only [nullable, List.forall_mem_cons] at hn
  obtain ⟨hunderscored, hplain, hname, hfirst, hlast, hcompany, -⟩ := hn
  simp only [decode, hrow, hunderscored, hplain, hname, hfirst, hlast, hcompany, bind, Except.bind]
  cases chooseId .client (members.text? "_id") (members.text? "id") <;> rfl

/-- The texts that a client may go by, in the order in which they count. -/
def names (first last company name : Option String) : List (Option String) :=
  [some (trim (trim (first.getD "") ++ " " ++ trim (last.getD ""))), company, name, some "Client"]

theorem firstFilled_chooseName (first last company name : Option String) :
    FirstFilled (names first last company name) (chooseName first last company name) := by
  have hc : filled? (some "Client") = some "Client" := by decide
  rw [← findSome?_filled?_iff, chooseName, fullName]
  simp only [names, List.findSome?_cons, hc]
  cases filled? (some (trim (trim (first.getD "") ++ " " ++ trim (last.getD "")))) with
  | some _ => rfl
  | none => cases filled? company <;> cases filled? name <;> rfl

theorem chooseName_of_trimmed {name : String} (h : Trimmed name) : chooseName none none none (some name) = name := by
  have hp : filled? (some (fullName "" "")) = none := by decide
  rw [chooseName, Option.getD_none, hp, h]
  rfl

theorem decode_texts {c : ClientOption} (hi : Trimmed c.id.text) (hn : Trimmed c.name) :
    decode (.obj (Json.textDocuments [("_id", c.id.text), ("name", c.name)])) = .ok c := by
  rw [decode_obj (wellTyped_textDocuments (by simp) _ _)]
  simp only [text?_textDocuments]
  change Except.map _ (chooseId .client (some c.id.text) none) = _
  rw [chooseId_of_trimmed hi]
  exact congrArg (fun name ↦ Except.ok (⟨c.id, name⟩ : ClientOption)) (chooseName_of_trimmed hn)

/-- A client in normal form. Its name is the first that says something: that of the person, that of the company, its
own, or a word for any client. -/
structure Normal (members : Members) (c : ClientOption) : Prop where
  trimmed : Trimmed c.name
  first : FirstFilled (names (members.text? "firstName") (members.text? "lastName") (members.text? "companyName")
    (members.text? "name")) c.name

theorem normalizes (h : members.WellTyped nullable []) :
    Normalizes .client decode toJson id (Normal members) members := by
  have hd := decode_obj h
  have hname := firstFilled_chooseName (members.text? "firstName") (members.text? "lastName")
    (members.text? "companyName") (members.text? "name")
  generalize chooseName (members.text? "firstName") (members.text? "lastName") (members.text? "companyName")
    (members.text? "name") = chosen at hd hname
  exact .of_build (fun i ↦ ⟨i, chosen⟩) (fun c ↦ [("name", c.name)]) h (by decide) hd (fun _ ↦ rfl)
    (fun _ ↦ ⟨hname.trimmed, hname⟩) (fun _ ↦ rfl) fun i hi ↦ decode_texts (c := ⟨i, chosen⟩) hi hname.trimmed

end ClientOption

namespace UnitOption

def nullable : List String := ["_id", "id"]

def plain : List String := ["name"]

theorem schema_ofTexts : schema.OfTexts nullable plain where
  nullables := by
    simp only [nullable, List.forall_mem_cons]
    exact ⟨rfl, rfl, List.forall_mem_nil _⟩
  plains := List.forall_mem_singleton.mpr rfl
  known := by decide

theorem decode_obj (h : members.WellTyped nullable plain) : decode (.obj members) =
    (chooseId .businessUnit (members.text? "_id") (members.text? "id")).map fun i ↦
      ⟨i, (members.text? "name").getD ""⟩ := by
  obtain ⟨row, hrow, hn, hp⟩ := schema_ofTexts.exists_row h
  simp only [nullable, plain, List.forall_mem_cons] at hn hp
  obtain ⟨hunderscored, hplain, -⟩ := hn
  simp only [decode, hrow, hunderscored, hplain, hp.1, bind, Except.bind]
  cases chooseId .businessUnit (members.text? "_id") (members.text? "id") <;> rfl

theorem decode_texts {u : UnitOption} (hi : Trimmed u.id.text) :
    decode (.obj (Json.textDocuments [("_id", u.id.text), ("name", u.name)])) = .ok u := by
  rw [decode_obj (wellTyped_textDocuments (by simp) _ _)]
  simp only [text?_textDocuments]
  change Except.map _ (chooseId .businessUnit (some u.id.text) none) = _
  rw [chooseId_of_trimmed hi]
  rfl

/-- A business unit in normal form, under whatever name it has. -/
structure Normal (members : Members) (u : UnitOption) : Prop where
  name : u.name = (members.text? "name").getD ""

theorem normalizes (h : members.WellTyped nullable plain) :
    Normalizes .businessUnit decode toJson id (Normal members) members :=
  .of_build _ (fun u ↦ [("name", u.name)]) h (by decide) (decode_obj h) (fun _ ↦ rfl) (fun _ ↦ ⟨rfl⟩)
    (fun _ ↦ rfl) fun i hi ↦ decode_texts (u := ⟨i, _⟩) hi

end UnitOption

/-- An object of well-typed texts is decoded to a record in normal form, whichever kind of record it is asked for, or
it is refused because it names none. -/
theorem decode_normalizes (members : Members) :
    (members.WellTyped Country.nullable Country.plain →
      Normalizes .country Country.decode Country.toJson Country.id (Country.Normal members) members) ∧
    (members.WellTyped ClientOption.nullable [] →
      Normalizes .client ClientOption.decode ClientOption.toJson ClientOption.id (ClientOption.Normal members)
        members) ∧
    (members.WellTyped UnitOption.nullable UnitOption.plain →
      Normalizes .businessUnit UnitOption.decode UnitOption.toJson UnitOption.id (UnitOption.Normal members) members) :=
  ⟨Country.normalizes, ClientOption.normalizes, UnitOption.normalizes⟩

/-- The first identifier is blank and the second one padded, the person has no name and the company one between wide
blanks. As a country the same object lacks nothing; with no identifier at all it is refused. A person goes by both
names, with one blank between them. -/
theorem decode_normalizes_padded :
    let members : Members := [(some "companyName", .str "\u3000Acme Ltd\u3000"), (some "_id", .str "\u00a0"),
      (some "firstName", .str " "), (some "id", .str "\tc1 "), (some "more", .arr [.unreadable])]
    let person : Members := [(some "_id", .str "c2"), (some "lastName", .str "King\n"), (some "firstName", .str " Ada "),
      (some "companyName", .str "Acme Ltd")]
    (∃ c, ClientOption.decode (.obj members) = .ok c ∧ c.id.text = "c1" ∧ c.name = "Acme Ltd" ∧
      decodeText ClientOption.decode c.toJson.compact = .ok c) ∧
    (∃ c, Country.decode (.obj members) = .ok c ∧ c.id.text = "c1" ∧ decodeValue Country.decode c.toJson = .ok c) ∧
    (∃ c, ClientOption.decode (.obj person) = .ok c ∧ c.name = "Ada King") ∧
    UnitOption.decode (.obj [(some "id", .null), (some "name", .str "North")]) =
      .error (.unidentified .businessUnit) := by
  intro members person
  have hc : members.WellTyped ClientOption.nullable [] :=
    ⟨by simp [members, Document.sound, Document.soundItems], by simp [members, ClientOption.nullable],
      List.forall_mem_nil _, by decide⟩
  have hx : members.WellTyped Country.nullable Country.plain :=
    ⟨by simp [members, Document.sound, Document.soundItems], by simp [members, Country.nullable],
      by simp [members, Country.plain], by decide⟩
  have hp : person.WellTyped ClientOption.nullable [] :=
    ⟨by simp [person, Document.sound], by simp [person, ClientOption.nullable], List.forall_mem_nil _, by decide⟩
  have hu : Members.WellTyped UnitOption.nullable UnitOption.plain [(some "id", .null), (some "name", .str "North")] :=
    ⟨by simp [Document.sound], by simp [UnitOption.nullable], by simp [UnitOption.plain], by decide⟩
  have hn : ¬ members.Nameless := by
    rintro ⟨-, h⟩
    rcases h (.str "\tc1 ") rfl with he | ⟨s, he, hb⟩
    · cases he
    · cases he
      exact absurd hb (by decide)
  have hn' : ¬ person.Nameless := by
    rintro ⟨h, -⟩
    rcases h (.str "c2") rfl with he | ⟨s, he, hb⟩
    · cases he
    · cases he
      exact absurd hb (by decide)
  obtain ⟨hcountry, hclient, -⟩ := decode_normalizes members
  refine ⟨?_, ?_, ?_, ((decode_normalizes _).2.2 hu).refused ?_⟩
  · obtain ⟨c, hd, hi, hname, -, hback⟩ := (hclient hc).read hn
    exact ⟨c, hd, hi.unique (findSome?_filled?_iff.mp (by decide)),
      hname.first.unique (findSome?_filled?_iff.mp (by decide)), hback⟩
  · obtain ⟨c, hd, hi, -, hback, -⟩ := (hcountry hx).read hn
    exact ⟨c, hd, hi.unique (findSome?_filled?_iff.mp (by decide)), hback⟩
  · obtain ⟨c, hd, -, hname, -⟩ := ((decode_normalizes person).2.1 hp).read hn'
    exact ⟨c, hd, hname.first.unique (findSome?_filled?_iff.mp (by decide))⟩
  · refine ⟨fun d hd ↦ ?_, fun d hd ↦ ?_⟩ <;> cases hd
    exact .inl rfl

end Backoffice
