import Mathlib.Data.List.Nodup
import Backoffice.Client.Form

namespace Backoffice

open Web (Part Multipart)

namespace Web

namespace Multipart

variable {m : Multipart} {n v : String}

theorem hasField_iff : m.hasField n ↔ n ∈ m.fieldNames := by
  simp only [hasField, fieldNames, List.any_eq_true, beq_iff_eq, List.mem_map]

theorem textValue?_of_mem (hm : m.fieldNames.Nodup) (h : Part.text n v ∈ m.parts) : m.textValue? n = some v := by
  have honly (p : Part) (hp : p ∈ m.parts.filter (·.name == n)) : p = Part.text n v := by
    obtain ⟨hp, hn⟩ := List.mem_filter.mp hp
    exact List.inj_on_of_nodup_map hm hp h (beq_iff_eq.mp hn)
  have hmem : Part.text n v ∈ m.parts.filter (·.name == n) := List.mem_filter.mpr ⟨h, beq_self_eq_true n⟩
  rw [textValue?]
  cases hs : m.parts.filter (·.name == n) with
  | nil =>
    rw [hs] at hmem
    cases hmem
  | cons p rest =>
    obtain rfl := honly p (hs ▸ List.mem_cons_self)
    rfl

theorem textValue?_of_not_mem (h : n ∉ m.fieldNames) : m.textValue? n = none := by
  have hnone : m.parts.filter (·.name == n) = [] := List.filter_eq_nil_iff.mpr fun p hp hn ↦
    h (List.mem_map.mpr ⟨p, hp, beq_iff_eq.mp hn⟩)
  rw [textValue?, hnone]
  rfl

theorem textValue?_of_optional {p : Prop} [Decidable p] (hm : m.fieldNames.Nodup) (hn : m.hasField n ↔ ¬ p)
    (h : ¬ p → Part.text n v ∈ m.parts) : m.textValue? n = if p then none else some v := by
  split
  · next hp => exact textValue?_of_not_mem fun hmem ↦ hn.mp (hasField_iff.mpr hmem) hp
  · next hp => exact textValue?_of_mem hm (h hp)

end Multipart

end Web

open Web Multipart

/-- A dialling code as it is written: without the plus sign that it begins with, if it begins with one. -/
def writtenCode (code : String) : String :=
  if code.toList.head? = some '+' then String.ofList code.toList.tail else code

theorem dropPlus_eq_writtenCode (code : String) : Text.dropPlus code = writtenCode code := by
  rw [Text.dropPlus, writtenCode]
  split
  · next cs h => rw [h, List.head?_cons, if_pos rfl, List.tail_cons]
  · next h =>
    rw [if_neg, String.ofList_toList]
    intro hh
    obtain ⟨cs, hcs⟩ := List.head?_eq_some_iff.mp hh
    exact h cs hcs

theorem idText_eq {e : Entity} (i : Option (Id e)) : idText i = i.elim "" Id.text := by
  cases i <;> rfl

/-- The values of a user that are sent twice when they change. -/
inductive Contact where
  | email | isdCode | country | mobileNumber
  deriving DecidableEq, Repr

namespace Contact

def all : List Contact := [email, isdCode, country, mobileNumber]

theorem mem_all (c : Contact) : c ∈ all := by cases c <;> decide

def name : Contact → String
  | email => "email"
  | isdCode => "isdCode"
  | country => "countryId"
  | mobileNumber => "mobileNumber"

def newName : Contact → String
  | email => "newEmail"
  | isdCode => "newIsdCode"
  | country => "newCountryId"
  | mobileNumber => "newMobileNumber"

/-- The value that the user had when the form was opened, as it is written. -/
def former (f : UserForm) : Contact → String
  | email => f.formerContact.email
  | isdCode => writtenCode f.formerContact.isdCode
  | country => f.formerContact.countryId.elim "" Id.text
  | mobileNumber => f.formerContact.mobileNumber

def current (f : UserForm) : Contact → String
  | email => f.email
  | isdCode => writtenCode f.isdCode
  | country => f.countryId.elim "" Id.text
  | mobileNumber => f.mobileNumber

def parts (f : UserForm) (c : Contact) : List Part := UserForm.change c.name c.newName (c.former f) (c.current f)

def names (c : Contact) : List String := [c.name, c.newName]

end Contact

/-- The values of a form that every edit sends once, behind the contact values. -/
inductive Detail where
  | firstName | lastName | client | businessUnit | role | status
  deriving DecidableEq, Repr

namespace Detail

def name : Detail → String
  | firstName => "firstName"
  | lastName => "lastName"
  | client => "clientId"
  | businessUnit => "businessUnitId"
  | role => "role"
  | status => "status"

def value (f : UserForm) : Detail → String
  | firstName => f.firstName
  | lastName => f.lastName
  | client => f.clientId.elim "" Id.text
  | businessUnit => f.businessUnitId.elim "" Id.text
  | role => f.roleId.elim "" Id.text
  | status => f.status

def part (f : UserForm) (d : Detail) : Part := .text d.name (d.value f)

def createName : Detail → String
  | role => "roleId"
  | d => d.name

end Detail

namespace UserForm

variable {f g : UserForm} {i j : Id .user}

def passwordParts (f : UserForm) : List Part := if f.password.isEmpty then [] else [.text "password" f.password]

def imagePart (u : ImageUpload) : Part := ⟨"image", .file u.fileName u.mime u.bytes⟩

/-- An edit is the identifier, the contact values, and the details around the password, with the image last. -/
theorem editSubmission_parts (f : UserForm) (i : Id .user) :
    (f.editSubmission i).parts =
      [.text "id" i.text] ++ Contact.all.flatMap (Contact.parts f) ++
        [Detail.firstName, .lastName].map (Detail.part f) ++ f.passwordParts ++
        [Detail.client, .businessUnit, .role, .status].map (Detail.part f) ++ f.imageParts := by
  simp [editSubmission, Contact.all, Contact.parts, Contact.name, Contact.newName, Contact.former, Contact.current,
    Detail.part, Detail.name, Detail.value, passwordParts, dropPlus_eq_writtenCode, idText_eq]

theorem change_names (name newName former current : String) :
    (change name newName former current).map Part.name = name :: if former = current then [] else [newName] := by
  rw [change]
  split <;> rfl

theorem passwordParts_names (f : UserForm) :
    f.passwordParts.map Part.name = if f.password = "" then [] else ["password"] := by
  simp only [passwordParts, String.isEmpty_iff]
  split <;> rfl

theorem imageParts_eq (f : UserForm) : f.imageParts = (f.image.map imagePart).toList := by
  rw [imageParts]
  cases f.image <;> rfl

theorem imageParts_names (f : UserForm) : f.imageParts.map Part.name = if f.image = none then [] else ["image"] := by
  rw [imageParts]
  cases f.image <;> rfl

theorem imagePart_inj {u v : ImageUpload} : imagePart u = imagePart v ↔ u = v := by
  obtain ⟨a, b, c⟩ := u
  obtain ⟨a', b', c'⟩ := v
  simp [imagePart]

theorem mem_imageParts_iff {u : ImageUpload} : imagePart u ∈ f.imageParts ↔ f.image = some u := by
  simp [imageParts_eq, imagePart_inj, eq_comm]

theorem editSubmission_names (f : UserForm) (i : Id .user) :
    (f.editSubmission i).fieldNames =
      "id" :: Contact.all.flatMap (fun c ↦ c.name :: if c.former f = c.current f then [] else [c.newName]) ++
        ["firstName", "lastName"] ++ (if f.password = "" then [] else ["password"]) ++
        ["clientId", "businessUnitId", "role", "status"] ++ if f.image = none then [] else ["image"] := by
  rw [fieldNames, editSubmission_parts]
  simp only [List.map_append, passwordParts_names, imageParts_names, List.map_flatMap, Contact.parts, change_names]
  rfl

def editNames : List String :=
  "id" :: Contact.all.flatMap Contact.names ++ ["firstName", "lastName"] ++ ["password"] ++
    ["clientId", "businessUnitId", "role", "status"] ++ ["image"]

theorem optional_sublist (p : Prop) [Decidable p] (n : String) : (if p then [] else [n]).Sublist [n] := by
  split
  · exact List.nil_sublist [n]
  · exact List.Sublist.refl [n]

theorem contactNames_sublist (f : UserForm) (cs : List Contact) :
    (cs.flatMap fun c ↦ c.name :: if c.former f = c.current f then [] else [c.newName]).Sublist
      (cs.flatMap Contact.names) := by
  induction cs with
  | nil => exact List.Sublist.refl []
  | cons c cs ih => exact ((optional_sublist _ c.newName).cons_cons c.name).append ih

theorem editSubmission_names_sublist (f : UserForm) (i : Id .user) :
    (f.editSubmission i).fieldNames.Sublist editNames := by
  rw [editSubmission_names, editNames]
  have hcontacts := (contactNames_sublist f Contact.all).cons_cons "id"
  have hdetails := hcontacts.append (List.Sublist.refl ["firstName", "lastName"])
  have hpassword := hdetails.append (optional_sublist (f.password = "") "password")
  have hrest := hpassword.append (List.Sublist.refl ["clientId", "businessUnitId", "role", "status"])
  exact hrest.append (optional_sublist (f.image = none) "image")

theorem nodup_editSubmission_names (f : UserForm) (i : Id .user) : (f.editSubmission i).fieldNames.Nodup :=
  (editSubmission_names_sublist f i).nodup (by decide)

/-- A form is told by an edit: what it was and what it is, as the parts are read by name. -/
structure ToldBy (f : UserForm) (i : Id .user) (m : Multipart) : Prop where
  id : m.textValue? "id" = some i.text
  former : ∀ c : Contact, m.textValue? c.name = some (c.former f)
  hasCurrent : ∀ c : Contact, m.hasField c.newName ↔ c.former f ≠ c.current f
  current : ∀ c : Contact, m.textValue? c.newName = if c.former f = c.current f then none else some (c.current f)
  detail : ∀ d : Detail, m.textValue? d.name = some (d.value f)
  hasPassword : m.hasField "password" ↔ f.password ≠ ""
  password : m.textValue? "password" = if f.password = "" then none else some f.password
  hasImage : m.hasField "image" ↔ f.image ≠ none
  image : ∀ u, imagePart u ∈ m.parts ↔ f.image = some u

/-- Two forms whose values are written alike. -/
structure WrittenAlike (f g : UserForm) : Prop where
  former : ∀ c : Contact, c.former f = c.former g
  current : ∀ c : Contact, c.current f = c.current g
  detail : ∀ d : Detail, d.value f = d.value g
  password : f.password = g.password
  image : f.image = g.image

theorem mem_former (f : UserForm) (c : Contact) : .text c.name (c.former f) ∈ c.parts f := by
  rw [Contact.parts, change]
  split
  · next h => exact h ▸ List.mem_cons_self
  · exact List.mem_cons_self

theorem mem_current {c : Contact} (h : c.former f ≠ c.current f) : .text c.newName (c.current f) ∈ c.parts f := by
  rw [Contact.parts, change, if_neg h]
  exact List.mem_cons_of_mem _ List.mem_cons_self

theorem mem_editSubmission_of_contact {p : Part} {c : Contact} (h : p ∈ c.parts f) :
    p ∈ (f.editSubmission i).parts := by
  have hc : p ∈ Contact.all.flatMap (Contact.parts f) := List.mem_flatMap.mpr ⟨c, c.mem_all, h⟩
  simp only [editSubmission_parts, List.mem_append, hc, true_or, or_true]

theorem mem_editSubmission_of_detail (d : Detail) : d.part f ∈ (f.editSubmission i).parts := by
  rw [editSubmission_parts]
  cases d <;> simp

theorem hasField_newName_iff (c : Contact) :
    (f.editSubmission i).hasField c.newName ↔ c.former f ≠ c.current f := by
  rw [hasField_iff, editSubmission_names]
  cases c <;> simp [Contact.all, Contact.name, Contact.newName]

theorem hasField_password_iff : (f.editSubmission i).hasField "password" ↔ f.password ≠ "" := by
  rw [hasField_iff, editSubmission_names]
  simp [Contact.all, Contact.name, Contact.newName]

theorem hasField_image_iff : (f.editSubmission i).hasField "image" ↔ f.image ≠ none := by
  rw [hasField_iff, editSubmission_names]
  simp [Contact.all, Contact.name, Contact.newName]

theorem imagePart_ne_text {u : ImageUpload} {name value : String} : imagePart u ≠ Part.text name value := by
  simp [imagePart, Part.text]

theorem imagePart_not_mem_contact {u : ImageUpload} {c : Contact} : imagePart u ∉ c.parts f := by
  rw [Contact.parts, change]
  split <;> simp [imagePart_ne_text]

theorem imagePart_not_mem_password {u : ImageUpload} : imagePart u ∉ f.passwordParts := by
  rw [passwordParts]
  split <;> simp [imagePart_ne_text]

theorem mem_editSubmission_image_iff {u : ImageUpload} :
    imagePart u ∈ (f.editSubmission i).parts ↔ f.image = some u := by
  rw [← mem_imageParts_iff, editSubmission_parts]
  simp [imagePart_not_mem_contact, imagePart_not_mem_password, imagePart_ne_text, Detail.part]

theorem toldBy_editSubmission (f : UserForm) (i : Id .user) : f.ToldBy i (f.editSubmission i) := by
  have hnodup := nodup_editSubmission_names f i
  constructor
  case id => exact textValue?_of_mem hnodup (by simp [editSubmission_parts])
  case former => exact fun c ↦ textValue?_of_mem hnodup (mem_editSubmission_of_contact (mem_former f c))
  case hasCurrent => exact hasField_newName_iff
  case current =>
    exact fun c ↦ textValue?_of_optional hnodup (hasField_newName_iff c) fun h ↦
      mem_editSubmission_of_contact (mem_current h)
  case detail => exact fun d ↦ textValue?_of_mem hnodup (mem_editSubmission_of_detail d)
  case hasPassword => exact hasField_password_iff
  case password =>
    exact textValue?_of_optional hnodup hasField_password_iff fun h ↦ by
      simp [editSubmission_parts, passwordParts, h]
  case hasImage => exact hasField_image_iff
  case image => exact fun u ↦ mem_editSubmission_image_iff

theorem getD_unless {p : Prop} [Decidable p] {a v : String} (h : p → a = v) :
    (if p then none else some v).getD a = v := by
  split
  · next hp => exact h hp
  · rfl

theorem ToldBy.current_eq {m : Multipart} (h : f.ToldBy i m) (c : Contact) :
    (m.textValue? c.newName).getD (c.former f) = c.current f := by
  rw [h.current]
  exact getD_unless fun hc ↦ hc

theorem ToldBy.password_eq {m : Multipart} (h : f.ToldBy i m) : (m.textValue? "password").getD "" = f.password := by
  rw [h.password]
  exact getD_unless Eq.symm

/-- The receiver can tell the forms apart that are not written alike. -/
theorem ToldBy.writtenAlike {m : Multipart} (hf : f.ToldBy i m) (hg : g.ToldBy j m) : i = j ∧ f.WrittenAlike g := by
  have hid : i.text = j.text := Option.some.inj (hf.id.symm.trans hg.id)
  have hformer (c : Contact) : c.former f = c.former g := Option.some.inj ((hf.former c).symm.trans (hg.former c))
  refine ⟨congrArg Id.mk hid, ?_⟩
  constructor
  case former => exact hformer
  case current => exact fun c ↦ by rw [← hf.current_eq c, hformer c, hg.current_eq c]
  case detail => exact fun d ↦ Option.some.inj ((hf.detail d).symm.trans (hg.detail d))
  case password => exact hf.password_eq.symm.trans hg.password_eq
  case image => exact Option.ext fun u ↦ (hf.image u).symm.trans (hg.image u)

theorem WrittenAlike.contact_parts (h : f.WrittenAlike g) (c : Contact) : c.parts f = c.parts g := by
  rw [Contact.parts, Contact.parts, h.former, h.current]

theorem WrittenAlike.detail_part (h : f.WrittenAlike g) (d : Detail) : d.part f = d.part g := by
  rw [Detail.part, Detail.part, h.detail]

theorem WrittenAlike.editSubmission_eq (h : f.WrittenAlike g) (i : Id .user) :
    f.editSubmission i = g.editSubmission i := by
  have hcontact : Contact.parts f = Contact.parts g := funext h.contact_parts
  have hdetail : Detail.part f = Detail.part g := funext h.detail_part
  have hparts : (f.editSubmission i).parts = (g.editSubmission i).parts := by
    simp only [editSubmission_parts, hcontact, hdetail, passwordParts, h.password, imageParts, h.image]
  exact congrArg Multipart.mk hparts

theorem editSubmission_inj : f.editSubmission i = g.editSubmission j ↔ i = j ∧ f.WrittenAlike g := by
  constructor
  case mp =>
    intro h
    have hf := toldBy_editSubmission f i
    rw [h] at hf
    exact hf.writtenAlike (toldBy_editSubmission g j)
  case mpr =>
    rintro ⟨rfl, h⟩
    exact h.editSubmission_eq i

/-- A form that was filled from a user and not touched changes no contact value. -/
theorem former_ofUser (u : AdminUser) (c : Contact) : c.former (ofUser u) = c.current (ofUser u) := by
  cases c <;> rfl

def createNames : List String :=
  ["firstName", "lastName", "email", "password", "isdCode", "countryId", "isdCodeCountryId", "mobileNumber",
    "clientId", "businessUnitId", "roleId", "status"]

theorem createSubmission_names (f : UserForm) :
    f.createSubmission.fieldNames = createNames ++ if f.image = none then [] else ["image"] := by
  rw [fieldNames, createSubmission, List.map_append, imageParts_names]
  rfl

theorem nodup_createSubmission_names (f : UserForm) : f.createSubmission.fieldNames.Nodup := by
  rw [createSubmission_names]
  exact ((List.Sublist.refl createNames).append (optional_sublist _ "image")).nodup (by decide)

/-- A form is told by a creation: the contact values are the current ones, and the identifier of the country stands
for the country of the dialling code too. -/
structure CreatedBy (f : UserForm) (m : Multipart) : Prop where
  names : m.fieldNames = createNames ++ if f.image = none then [] else ["image"]
  once : ∀ n ∈ createNames, m.fieldNames.count n = 1
  contact : ∀ c : Contact, m.textValue? c.name = some (c.current f)
  codeCountry : m.textValue? "isdCodeCountryId" = some (Contact.country.current f)
  detail : ∀ d : Detail, m.textValue? d.createName = some (d.value f)
  password : m.textValue? "password" = some f.password
  image : ∀ u, imagePart u ∈ m.parts ↔ f.image = some u

theorem createdBy_createSubmission (f : UserForm) : f.CreatedBy f.createSubmission := by
  have hnodup := nodup_createSubmission_names f
  constructor
  case names => exact createSubmission_names f
  case once =>
    intro n hn
    refine List.count_eq_one_of_mem hnodup ?_
    rw [createSubmission_names]
    exact List.mem_append_left _ hn
  case contact =>
    intro c
    apply textValue?_of_mem hnodup
    cases c <;> simp [createSubmission, Contact.name, Contact.current, dropPlus_eq_writtenCode, idText_eq]
  case codeCountry => exact textValue?_of_mem hnodup (by simp [createSubmission, Contact.current, idText_eq])
  case detail =>
    intro d
    apply textValue?_of_mem hnodup
    cases d <;> simp [createSubmission, Detail.createName, Detail.name, Detail.value, idText_eq]
  case password => exact textValue?_of_mem hnodup (by simp [createSubmission])
  case image =>
    intro u
    rw [← mem_imageParts_iff, createSubmission]
    simp [imagePart_ne_text]

/-- The submissions of a form lose nothing: all that it holds can be read back from them, as it is written. An edit
that changes nothing sends no new contact value and no password. -/
theorem submissions_lose_nothing (f : UserForm) (i : Id .user) :
    (f.editSubmission i).fieldNames.Nodup ∧ f.ToldBy i (f.editSubmission i) ∧
      (∀ g j, f.editSubmission i = g.editSubmission j ↔ i = j ∧ f.WrittenAlike g) ∧
      f.CreatedBy f.createSubmission ∧
      ∀ u, (∀ c : Contact, ¬ ((ofUser u).editSubmission i).hasField c.newName) ∧
        ¬ ((ofUser u).editSubmission i).hasField "password" := by
  refine ⟨nodup_editSubmission_names f i, toldBy_editSubmission f i, fun g j ↦ editSubmission_inj,
    createdBy_createSubmission f, fun u ↦ ⟨fun c hc ↦ ?_, fun hp ↦ ?_⟩⟩
  · exact (hasField_newName_iff c).mp hc (former_ofUser u c)
  · exact hasField_password_iff.mp hp rfl

end UserForm

end Backoffice
