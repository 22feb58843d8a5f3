import Mathlib.Tactic.Choose
import Backoffice.Proofs.Json.Overlay
import Backoffice.Proofs.Record.RoundTrip

namespace Backoffice

namespace AdminUser

inductive Part where
  | id
  | firstName
  | lastName
  | email
  | mobileNumber
  | isdCode
  | country
  | role
  | status
  | client
  | businessUnit
  | image
  deriving DecidableEq

namespace Part

def name : Part → String
  | id => "_id"
  | firstName => "firstName"
  | lastName => "lastName"
  | email => "email"
  | mobileNumber => "mobileNumber"
  | isdCode => "isdCode"
  | country => "countryId"
  | role => "role"
  | status => "status"
  | client => "client"
  | businessUnit => "businessUnit"
  | image => "image"

def otherName? : Part → Option String
  | id => some "id"
  | country => some "isdCodeCountryId"
  | client => some "clientId"
  | businessUnit => some "businessUnitId"
  | _ => none

def names (p : Part) : List String := p.name :: p.otherName?.toList

example : ([id, firstName, lastName, email, mobileNumber, isdCode, country, role, status, client, businessUnit,
    image].flatMap names).Perm (schema.map Field.name) := by decide

def Same : Part → AdminUser → AdminUser → Prop
  | id, u, v => u.id = v.id
  | firstName, u, v => u.firstName = v.firstName
  | lastName, u, v => u.lastName = v.lastName
  | email, u, v => u.email = v.email
  | mobileNumber, u, v => u.mobileNumber = v.mobileNumber
  | isdCode, u, v => u.isdCode = v.isdCode
  | country, u, v => u.countryId = v.countryId
  | role, u, v => u.role = v.role
  | status, u, v => u.status = v.status
  | client, u, v => u.client = v.client
  | businessUnit, u, v => u.businessUnit = v.businessUnit
  | image, u, v => u.image = v.image

theorem Same.refl (p : Part) (u : AdminUser) : p.Same u u := by
  cases p <;> rfl

def ReadsText (get : String → Option Json) (name text : String) : Prop :=
  ∃ s, readAt get name Decoder.text = .ok s ∧ text = s.getD ""

def ReadsReference {e : Entity} (get : String → Option Json) (flatName name : String)
    (r : Option (Reference e)) : Prop :=
  ∃ flat x, readAt get flatName Decoder.text = .ok flat ∧ readAt get name Embedded.decode = .ok x ∧
    r = Reference.merge flat x

def Reads : Part → (String → Option Json) → AdminUser → Prop
  | id, get, u => ∃ underscored plain, readAt get "_id" Decoder.text = .ok underscored ∧
    readAt get "id" Decoder.text = .ok plain ∧ chooseId .user underscored plain = .ok u.id
  | firstName, get, u => ReadsText get "firstName" u.firstName
  | lastName, get, u => ReadsText get "lastName" u.lastName
  | email, get, u => ReadsText get "email" u.email
  | mobileNumber, get, u => ReadsText get "mobileNumber" u.mobileNumber
  | isdCode, get, u => ReadsText get "isdCode" u.isdCode
  | country, get, u => ∃ id other, readAt get "countryId" Decoder.text = .ok id ∧
    readAt get "isdCodeCountryId" Decoder.text = .ok other ∧ u.countryId = (chooseId? id other).map Id.mk
  | role, get, u => ∃ x, readAt get "role" Embedded.decode = .ok x ∧ u.role = Reference.merge none x
  | status, get, u => ∃ s, readAt get "status" Status.decode = .ok s ∧ u.status = s.getD .active
  | client, get, u => ReadsReference get "clientId" "client" u.client
  | businessUnit, get, u => ReadsReference get "businessUnitId" "businessUnit" u.businessUnit
  | image, get, u => readAt get "image" Image.decodeEmbedded = .ok u.image

variable {p : Part} {get get' : String → Option Json} {u v m : AdminUser}

theorem Reads.congr (hr : p.Reads get u) (h : ∀ n ∈ p.names, get n = get' n) : p.Reads get' u := by
  cases p <;> simp_all [names, name, otherName?, Reads, ReadsText, ReadsReference, readAt]

/-- Members read as one part only. -/
theorem Reads.same (h : p.Reads get u) (h' : p.Reads get v) : p.Same u v := by
  cases p <;> simp only [Reads, ReadsText, ReadsReference, Same] at * <;> grind

/-- The parts are all that there is to a user. -/
theorem eq_of_same (h : ∀ p : Part, p.Same u v) : u = v := by
  cases u
  cases v
  simp only [mk.injEq]
  exact ⟨h .id, h .firstName, h .lastName, h .email, h .mobileNumber, h .isdCode, h .country, h .role, h .status,
    h .client, h .businessUnit, h .image⟩

/-- Parts that can each be read make a user. -/
theorem exists_of_parts (h : ∀ p : Part, ∃ u, p.Reads get u) : ∃ u, ∀ p : Part, p.Reads get u := by
  choose f hf using h
  refine ⟨⟨(f id).id, (f firstName).firstName, (f lastName).lastName, (f email).email,
    (f mobileNumber).mobileNumber, (f isdCode).isdCode, (f country).countryId, (f role).role, (f status).status,
    (f client).client, (f businessUnit).businessUnit, (f image).image⟩, fun p ↦ ?_⟩
  have h := hf p
  cases p <;> exact h

end Part

open Backoffice.AdminUser.Part

variable {members : List (String × Json)} {u v m : AdminUser}

theorem reads_of_decode (h : decodeValue decode (.obj members) = .ok u) (p : Part) :
    p.Reads (Json.under members) u := by
  simp only [decodeValue, Json.toDocument, decode, ofRow, bind_eq_ok] at h
  obtain ⟨row, hrow, underscored, h₁, plain, h₂, firstName, h₃, lastName, h₄, email, h₅, mobileNumber, h₆,
    isdCode, h₇, countryId, h₈, isdCodeCountryId, h₉, role, h₁₀, status, h₁₁, clientId, h₁₂, client, h₁₃,
    unitId, h₁₄, unit, h₁₅, image, h₁₆, id, hi, he⟩ := h
  cases he
  have read {α : Type} {dec : Decoder α} {name : String} {x : Option α} (hk : schema.Knows name)
      (hx : row.optional name dec = .ok x) : readAt (Json.under members) name dec = .ok x :=
    (Schema.optional_eq_readAt hrow hk).symm.trans hx
  cases p with
  | id => exact ⟨_, _, read rfl h₁, read rfl h₂, hi⟩
  | firstName => exact ⟨_, read rfl h₃, rfl⟩
  | lastName => exact ⟨_, read rfl h₄, rfl⟩
  | email => exact ⟨_, read rfl h₅, rfl⟩
  | mobileNumber => exact ⟨_, read rfl h₆, rfl⟩
  | isdCode => exact ⟨_, read rfl h₇, rfl⟩
  | country => exact ⟨_, _, read rfl h₈, read rfl h₉, rfl⟩
  | role => exact ⟨_, read rfl h₁₀, rfl⟩
  | status => exact ⟨_, read rfl h₁₁, rfl⟩
  | client => exact ⟨_, _, read rfl h₁₂, read rfl h₁₃, rfl⟩
  | businessUnit => exact ⟨_, _, read rfl h₁₄, read rfl h₁₅, rfl⟩
  | image => exact read rfl h₁₆

theorem passes_of_reads (hn : (members.map Prod.fst).Nodup) (h : ∀ p : Part, p.Reads (Json.under members) u) :
    ∀ m ∈ members, schema.Passes m.1 m.2.toDocument := by
  obtain ⟨_, _, hid, hplain, -⟩ := h .id
  obtain ⟨_, hfirst, -⟩ := h .firstName
  obtain ⟨_, hlast, -⟩ := h .lastName
  obtain ⟨_, hemail, -⟩ := h .email
  obtain ⟨_, hmobile, -⟩ := h .mobileNumber
  obtain ⟨_, hisd, -⟩ := h .isdCode
  obtain ⟨_, _, hcountry, hother, -⟩ := h .country
  obtain ⟨_, hrole, -⟩ := h .role
  obtain ⟨_, hstatus, -⟩ := h .status
  obtain ⟨_, _, hflat, hclient, -⟩ := h .client
  obtain ⟨_, _, hflatUnit, hunit, -⟩ := h .businessUnit
  have himage : readAt (Json.under members) "image" Image.decodeEmbedded = .ok u.image := h .image
  have hchecks : ∀ f ∈ schema, ∀ v, Json.under members f.name = some v → f.check v.toDocument = .ok () := by
    simp only [schema, List.forall_mem_cons]
    exact ⟨fun _ ↦ Field.check_of_readAt hid, fun _ ↦ Field.check_of_readAt hplain,
      fun _ ↦ Field.check_of_readAt hfirst, fun _ ↦ Field.check_of_readAt hlast,
      fun _ ↦ Field.check_of_readAt hemail, fun _ ↦ Field.check_of_readAt hmobile,
      fun _ ↦ Field.check_of_readAt hisd, fun _ ↦ Field.check_of_readAt hcountry,
      fun _ ↦ Field.check_of_readAt hother, fun _ ↦ Field.check_of_readAt hrole,
      fun _ ↦ Field.check_of_readAt hstatus, fun _ ↦ Field.check_of_readAt hflat,
      fun _ ↦ Field.check_of_readAt hclient, fun _ ↦ Field.check_of_readAt hflatUnit,
      fun _ ↦ Field.check_of_readAt hunit, fun _ ↦ Field.check_of_readAt himage, List.forall_mem_nil _⟩
  intro m hm f hf
  have hname : f.name = m.1 := beq_iff_eq.mp (List.find?_some (p := fun g : Field ↦ g.name == m.1) hf)
  exact hchecks f (List.mem_of_find?_eq_some hf) m.2 (hname ▸ Json.lookup_of_mem hn hm)

theorem decode_of_reads (hn : (members.map Prod.fst).Nodup) (h : ∀ p : Part, p.Reads (Json.under members) u) :
    decodeValue decode (.obj members) = .ok u := by
  have hempty : ∀ m ∈ members, ([] : Row).lookup m.1 = none := fun _ _ ↦ rfl
  obtain ⟨row, hrow⟩ := Schema.exists_readMembers (passes_of_reads hn h) hn hempty
  have read {α : Type} {dec : Decoder α} {name : String} {x : Option α} (hk : schema.Knows name)
      (hx : readAt (Json.under members) name dec = .ok x) : row.optional name dec = .ok x :=
    (Schema.optional_eq_readAt hrow hk).trans hx
  obtain ⟨_, _, hid, hplain, hi⟩ := h .id
  obtain ⟨_, hfirst, hfirst'⟩ := h .firstName
  obtain ⟨_, hlast, hlast'⟩ := h .lastName
  obtain ⟨_, hemail, hemail'⟩ := h .email
  obtain ⟨_, hmobile, hmobile'⟩ := h .mobileNumber
  obtain ⟨_, hisd, hisd'⟩ := h .isdCode
  obtain ⟨_, _, hcountry, hother, hcountry'⟩ := h .country
  obtain ⟨_, hrole, hrole'⟩ := h .role
  obtain ⟨_, hstatus, hstatus'⟩ := h .status
  obtain ⟨_, _, hflat, hclient, hclient'⟩ := h .client
  obtain ⟨_, _, hflatUnit, hunit, hunit'⟩ := h .businessUnit
  have himage : readAt (Json.under members) "image" Image.decodeEmbedded = .ok u.image := h .image
  simp only [decodeValue, Json.toDocument, decode, ofRow, bind_eq_ok]
  refine ⟨row, hrow, _, read rfl hid, _, read rfl hplain, _, read rfl hfirst, _, read rfl hlast,
    _, read rfl hemail, _, read rfl hmobile, _, read rfl hisd, _, read rfl hcountry, _, read rfl hother,
    _, read rfl hrole, _, read rfl hstatus, _, read rfl hflat, _, read rfl hclient, _, read rfl hflatUnit,
    _, read rfl hunit, _, read rfl himage, _, hi, ?_⟩
  rw [← hfirst', ← hlast', ← hemail', ← hmobile', ← hisd', ← hcountry', ← hrole', ← hstatus', ← hclient', ← hunit']
  rfl

end AdminUser

end Backoffice
