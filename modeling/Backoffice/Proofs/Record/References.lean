import Backoffice.Proofs.Json.Overlay
import Backoffice.Proofs.Record.RoundTrip

namespace Backoffice

namespace Document

def filled? : Document → Option String
  | .str s => Text.filled? (some s)
  | _ => none

/-- The identifier of an embedded reference: the reference itself if it is a text, else what it has under `_id`, or
under `id` where that is blank or missing. -/
def referredId? : Document → Option String
  | .str s => filled? (.str s)
  | .obj members => ((members.lookup (some "_id")).bind filled?).or ((members.lookup (some "id")).bind filled?)
  | _ => none

def referredName? : Document → Option String
  | .obj members => (members.lookup (some "name")).bind filled?
  | _ => none

end Document

open Document (referredId? referredName?)

namespace Schema

variable {schema : Schema} {row : Row} {name : String} {d : Document}

/-- What a record in either of its forms gives under a name. In the list form the items stand in the order of the
schema. -/
def given? (schema : Schema) (d : Document) (name : String) : Option Document :=
  match d with
  | .obj members => members.lookup (some name)
  | .arr items => items[schema.findIdx (·.name == name)]?
  | _ => none

theorem lookup_readItems {items : List Document} (h : schema.readItems items = .ok row) :
    row.lookup name = items[schema.findIdx (·.name == name)]? := by
  induction schema generalizing items row with
  | nil =>
    cases items with
    | nil =>
      cases h
      rfl
    | cons d ds => cases h
  | cons f fs ih =>
    cases items with
    | nil =>
      simp only [readItems] at h
      split at h
      · rw [ih h]
        rfl
      · cases h
    | cons d ds =>
      simp only [readItems, bind_eq_ok] at h
      obtain ⟨-, -, rest, hrest, he⟩ := h
      cases he
      rw [List.lookup_cons, List.findIdx_cons, BEq.comm, ih hrest]
      cases f.name == name <;> rfl

theorem lookup_read (h : schema.read d = .ok row) (hk : schema.Knows name) :
    row.lookup name = schema.given? d name := by
  cases d with
  | obj members => exact lookup_of_readMembers h hk
  | arr items => exact lookup_readItems h
  | _ => cases h

end Schema

namespace Row

variable {row : Row} {name : String}

theorem filled?_of_text? {x : Option String} (h : row.text? name = .ok x) :
    Text.filled? x = (row.lookup name).bind Document.filled? := by
  simp only [text?, optional, withDefault] at h
  cases hl : row.lookup name with
  | none =>
    rw [hl] at h
    cases h
    rfl
  | some d =>
    rw [hl] at h
    cases d <;> cases h <;> rfl

end Row

theorem chooseId?_eq_or (underscored plain : Option String) :
    chooseId? underscored plain = (Text.filled? underscored).or (Text.filled? plain) := by
  rw [chooseId?]
  cases Text.filled? underscored <;> rfl

namespace Embedded

theorem eq_of_decode {d : Document} {x : Embedded} (h : decode d = .ok x) :
    x = ⟨d.referredId?, d.referredName?⟩ := by
  rw [decode, Decoder.whole] at h
  split at h
  · unfold decodeForm at h
    split at h
    · cases h
      rfl
    · simp only [bind_eq_ok] at h
      obtain ⟨row, hrow, underscored, hu, plain, hp, name, hn, he⟩ := h
      cases he
      cases d with
      | obj members =>
        have read (key : String) (hk : schema.Knows key) : row.lookup key = members.lookup (some key) :=
          Schema.lookup_of_readMembers hrow hk
        rw [chooseId?_eq_or, Row.filled?_of_text? hu, Row.filled?_of_text? hp, Row.filled?_of_text? hn, read "_id" rfl,
          read "id" rfl, read "name" rfl]
        rfl
      | _ => cases hrow
  · cases h

theorem of_optional {row : Row} {name : String} {x : Option Embedded} (h : row.optional name decode = .ok x) :
    x.bind id = (row.lookup name).bind referredId? ∧ x.bind Embedded.name = (row.lookup name).bind referredName? := by
  simp only [Row.optional, Row.withDefault] at h
  cases hl : row.lookup name with
  | none =>
    rw [hl] at h
    cases h
    exact ⟨rfl, rfl⟩
  | some d =>
    rw [hl] at h
    rcases Decoder.null_or_of_optional h with ⟨rfl, rfl⟩ | ⟨e, rfl, he⟩
    · exact ⟨rfl, rfl⟩
    · rw [eq_of_decode he]
      exact ⟨rfl, rfl⟩

end Embedded

namespace Reference

variable {e : Entity}

/-- A reference is the one that a record gives: flat under one name, embedded under another. -/
structure Given (flat embedded : Option Document) (r : Option (Reference e)) : Prop where
  absent : r = none ↔ flat.bind Document.filled? = none ∧ embedded.bind referredId? = none
  id : ∀ x, r = some x → some x.id.text = (flat.bind Document.filled?).or (embedded.bind referredId?)
  name : ∀ x, r = some x → ∀ n,
    x.name = some n ↔ embedded.bind referredName? = some n ∧ embedded.bind referredId? = some x.id.text

/-- A name is there only if an object with it was embedded, and has the identifier of the reference. -/
theorem Given.exists_object {flat embedded : Option Document} {r : Option (Reference e)} (h : Given flat embedded r)
    {x : Reference e} (hx : r = some x) {n : String} (hn : x.name = some n) :
    ∃ members, embedded = some (.obj members) ∧ referredName? (.obj members) = some n ∧
      referredId? (.obj members) = some x.id.text := by
  obtain ⟨hname, hid⟩ := (h.name x hx n).mp hn
  obtain ⟨d, rfl, hd⟩ := Option.bind_eq_some_iff.mp hname
  cases d with
  | obj members => exact ⟨members, rfl, hd, hid⟩
  | _ => cases hd

theorem given_merge {row : Row} {flatName name : String} {flat : Option String} {x : Option Embedded}
    (hf : row.text? flatName = .ok flat) (hx : row.optional name Embedded.decode = .ok x) :
    Given (row.lookup flatName) (row.lookup name) (merge flat x : Option (Reference e)) := by
  obtain ⟨hid, hname⟩ := Embedded.of_optional hx
  rw [merge, hid, hname, Row.filled?_of_text? hf]
  cases hflat : (row.lookup flatName).bind Document.filled? with
  | some f =>
    cases hi : (row.lookup name).bind referredId? with
    | some i =>
      refine { absent := by simp [hflat], id := ?id, name := ?name }
      case id =>
        rintro _ ⟨⟩
        rw [hflat]
        rfl
      -- The name counts only beside the identifier that it was embedded with.
      case name =>
        rintro _ ⟨⟩ n
        by_cases he : f = i
        · simp [he, hi]
        · simp [he, hi, Ne.symm he]
    | none =>
      refine { absent := by simp [hflat], id := ?id, name := ?name }
      case id =>
        rintro _ ⟨⟩
        rw [hflat]
        rfl
      case name =>
        rintro _ ⟨⟩ n
        simp [hi]
  | none =>
    cases hi : (row.lookup name).bind referredId? with
    | some i =>
      refine { absent := by simp [hi], id := ?id, name := ?name }
      case id =>
        rintro _ ⟨⟩
        rw [hflat, hi]
        rfl
      case name =>
        rintro _ ⟨⟩ n
        simp [hi]
    | none => exact { absent := by simp [hflat, hi], id := by rintro _ ⟨⟩, name := by rintro _ ⟨⟩ }

end Reference

namespace AdminUser

variable {d : Document} {u : AdminUser}

/-- The client and the business unit of a user that was decoded are those that the record gives, in whichever of its
forms it comes. Each is missing just if neither its flat nor its embedded identifier is filled. Else it has the flat
one, or the embedded one where that is blank, and it has a name just if an object was embedded that has the name and
this identifier. So a business unit is named only as the backend named the unit with its identifier. -/
theorem references_of_decode (h : decode d = .ok u) :
    Reference.Given (schema.given? d "clientId") (schema.given? d "client") u.client ∧
      Reference.Given (schema.given? d "businessUnitId") (schema.given? d "businessUnit") u.businessUnit ∧
      ∀ i n, u.businessUnitName i = some n →
        ∃ members, schema.given? d "businessUnit" = some (.obj members) ∧
          referredName? (.obj members) = some n ∧ referredId? (.obj members) = some i.text := by
  simp only [decode, ofRow, bind_eq_ok] at h
  obtain ⟨row, hrow, underscored, -, plain, -, firstName, -, lastName, -, email, -, mobileNumber, -, isdCode, -,
    countryId, -, isdCodeCountryId, -, role, -, status, -, clientId, hflat, client, hclient, unitId, hflatUnit,
    unit, hunit, image, -, id, -, he⟩ := h
  cases he
  have read (name : String) (hk : schema.Knows name) : row.lookup name = schema.given? d name :=
    Schema.lookup_read hrow hk
  have hc := Reference.given_merge (e := .client) hflat hclient
  have hu := Reference.given_merge (e := .businessUnit) hflatUnit hunit
  rw [read "clientId" rfl, read "client" rfl] at hc
  rw [read "businessUnitId" rfl, read "businessUnit" rfl] at hu
  refine ⟨hc, hu, fun i n hn ↦ ?_⟩
  simp only [businessUnitName] at hn
  split at hn
  · next r hr =>
    split at hn
    · next hi =>
      subst hi
      exact hu.exists_object hr hn
    · cases hn
  · cases hn

/-- The client is named beside its flat identifier, which has blanks around it. The unit that is named is another one
than the flat one, so the flat one has no name. -/
theorem references_of_decode_of_two_units :
    let client : Document := .obj [(some "_id", .str " "), (some "id", .str "c1 "), (some "name", .str " Acme ")]
    let unit : Document := .obj [(some "_id", .str "b1"), (some "name", .str "Beta")]
    let d : Document := .obj [(some "_id", .str "u1"), (some "clientId", .str " c1"), (some "client", client),
      (some "businessUnitId", .str "b2"), (some "businessUnit", unit)]
    ∃ u, decode d = .ok u ∧ (∀ r, u.client = some r → r.id = ⟨"c1"⟩ ∧ r.name = some "Acme") ∧ u.client ≠ none ∧
      (∀ r, u.businessUnit = some r → r.id = ⟨"b2"⟩ ∧ r.name = none) ∧ u.businessUnit ≠ none ∧
      ∀ n, u.businessUnitName ⟨"b2"⟩ ≠ some n := by
  intro client unit d
  obtain ⟨hc, hu, hnamed⟩ := references_of_decode (rfl : decode d = _)
  have hid {e : Entity} {i j : Id e} (h : some i.text = some j.text) : i = j := by
    cases i
    exact congrArg Id.mk (Option.some.inj h)
  have hunit : (AdminUser.schema.given? d "businessUnit").bind referredId? ≠ some "b2" := by decide
  refine ⟨_, rfl, fun r hr ↦ ⟨hid (hc.id r hr), ?_⟩, ?_, fun r hr ↦ ⟨hid (hu.id r hr), ?_⟩, ?_, fun n hn ↦ ?_⟩
  · exact (hc.name r hr "Acme").mpr ⟨by decide, (hc.id r hr).symm⟩
  · exact fun h ↦ absurd (hc.absent.mp h).1 (by decide)
  · refine Option.eq_none_iff_forall_ne_some.mpr fun n hn ↦ hunit ?_
    rw [((hu.name r hr n).mp hn).2, hu.id r hr]
    rfl
  · exact fun h ↦ absurd (hu.absent.mp h).1 (by decide)
  · obtain ⟨members, hm, -, hi⟩ := hnamed _ n hn
    exact hunit (by rw [hm]; exact hi)

end AdminUser

end Backoffice
