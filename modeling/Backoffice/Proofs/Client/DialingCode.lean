import Mathlib.Data.List.TakeWhile
import Backoffice.Client.ReferenceData
import Backoffice.Proofs.Client.Submission
import Backoffice.Text.Search

namespace Backoffice

open Web (Part Multipart)
open Text (dropPlus dropPluses)

namespace Text

variable {s t : String}

/-- How many plus signs are in front of a text besides the first one. -/
def sparePluses (s : String) : Nat := (s.toList.takeWhile (· == '+')).length - 1

theorem eq_replicate_append_dropWhile (cs : List Char) :
    cs = List.replicate (cs.takeWhile (· == '+')).length '+' ++ cs.dropWhile (· == '+') := by
  have hsigns : cs.takeWhile (· == '+') = List.replicate (cs.takeWhile (· == '+')).length '+' :=
    List.eq_replicate_iff.mpr ⟨rfl, fun c hc ↦ beq_iff_eq.mp (List.mem_takeWhile_imp (p := (· == '+')) hc)⟩
  rw [← hsigns, List.takeWhile_append_dropWhile]

theorem toList_dropPlus (s : String) :
    (dropPlus s).toList = List.replicate (sparePluses s) '+' ++ (dropPluses s).toList := by
  rw [dropPlus, sparePluses, dropPluses, String.toList_ofList]
  split
  · next cs hs =>
    rw [hs, String.toList_ofList, List.takeWhile_cons_of_pos rfl, List.dropWhile_cons_of_pos rfl, List.length_cons,
      Nat.add_sub_cancel, ← eq_replicate_append_dropWhile]
  · next hs =>
    have hnone : s.toList.takeWhile (· == '+') = [] := by
      cases hcs : s.toList with
      | nil => rfl
      | cons c cs => exact List.takeWhile_cons_of_neg fun hc ↦ hs cs (by rw [hcs, beq_iff_eq.mp hc])
    have hall := eq_replicate_append_dropWhile s.toList
    rw [hnone] at hall ⊢
    rwa [String.toList_ofList]

theorem head?_dropPluses (s : String) : (dropPluses s).toList.head? ≠ some '+' := by
  intro h
  have hkept := List.head?_dropWhile_not (· == '+') s.toList
  rw [dropPluses, String.toList_ofList] at h
  rw [h] at hkept
  cases hkept

theorem replicate_append_inj {c : Char} {as bs : List Char} (ha : as.head? ≠ some c) (hb : bs.head? ≠ some c)
    {n m : Nat} (h : List.replicate n c ++ as = List.replicate m c ++ bs) : n = m ∧ as = bs := by
  induction n generalizing m with
  | zero =>
    cases m with
    | zero => exact ⟨rfl, h⟩
    | succ m => exact absurd (congrArg List.head? h) ha
  | succ n ih =>
    cases m with
    | zero => exact absurd (congrArg List.head? h).symm hb
    | succ m =>
      obtain ⟨hnm, hab⟩ := ih (List.tail_eq_of_cons_eq h)
      exact ⟨congrArg (· + 1) hnm, hab⟩

/-- Dropping one sign tells apart what dropping all does, and numbers of signs from one on. -/
theorem dropPlus_eq_dropPlus_iff :
    dropPlus s = dropPlus t ↔ dropPluses s = dropPluses t ∧ sparePluses s = sparePluses t := by
  rw [← String.toList_inj, toList_dropPlus, toList_dropPlus]
  refine ⟨fun h ↦ ?_, fun ⟨hrest, hsigns⟩ ↦ by rw [hrest, hsigns]⟩
  obtain ⟨hsigns, hrest⟩ := replicate_append_inj (head?_dropPluses s) (head?_dropPluses t) h
  exact ⟨String.toList_injective hrest, hsigns⟩

theorem plus_isPrefix_dropPlus_iff : ['+'] <+: (dropPlus s).toList ↔ ['+', '+'] <+: s.toList := by
  rw [dropPlus]
  split
  · next cs hs => rw [hs, String.toList_ofList, List.cons_prefix_cons, and_iff_right rfl]
  · next hs =>
    rw [String.toList_ofList]
    have hnone (l : List Char) : ¬ '+' :: l <+: s.toList := by
      intro h
      obtain ⟨r, hr⟩ := h
      exact hs (l ++ r) hr.symm
    exact iff_of_false (hnone []) (hnone ['+'])

end Text

namespace Console

variable {s t : String}

theorem lookUpCountry_of_dropPluses_eq (h : dropPluses s = dropPluses t) (id : Option (Id .country))
    (countries : List Country) : lookUpCountry id s countries = lookUpCountry id t countries := by
  rw [lookUpCountry, lookUpCountry, h]

theorem dropPluses_eq_of_lookUpCountry {c : Country} {countries : List Country}
    (h : lookUpCountry none s countries = some c) : dropPluses c.isdCode = dropPluses s := by
  simp only [lookUpCountry, Option.bind_none] at h
  split at h
  · cases h
  · simpa using List.find?_some h

theorem lookUpCountry_singleton {c : Country} (hc : c.isdCode = s) (hs : dropPluses s ≠ "") :
    lookUpCountry none s [c] = some c := by
  simp [lookUpCountry, String.isEmpty_iff, hc, hs]

theorem dropPluses_eq_of_agree (h : ∀ countries, lookUpCountry none s countries = lookUpCountry none t countries)
    (hs : dropPluses s ≠ "") : dropPluses s = dropPluses t := by
  let c : Country := ⟨⟨""⟩, "", s, none, ""⟩
  have hfound : lookUpCountry none s [c] = some c := lookUpCountry_singleton rfl hs
  exact dropPluses_eq_of_lookUpCountry (c := c) ((h [c]).symm.trans hfound)

/-- Two codes find the same countries, whatever is loaded, just if they are the same without their signs. -/
theorem lookUpCountry_eq_iff : (∀ id countries, lookUpCountry id s countries = lookUpCountry id t countries) ↔
    dropPluses s = dropPluses t := by
  refine ⟨fun h ↦ ?_, lookUpCountry_of_dropPluses_eq⟩
  by_cases hs : dropPluses s = ""
  · by_cases ht : dropPluses t = ""
    · rw [hs, ht]
    · exact (dropPluses_eq_of_agree (fun countries ↦ (h none countries).symm) ht).symm
  · exact dropPluses_eq_of_agree (h none) hs

end Console

namespace Web

def Part.HasSign (p : Part) : Prop := ∃ v, p.text? = some v ∧ ['+'] <+: v.toList

def Multipart.codeParts (m : Multipart) : List Part := m.parts.filter fun p ↦ p.name = "isdCode" ∨ p.name = "newIsdCode"

theorem Part.hasSign_dropPlus_iff {name s : String} :
    (Part.text name (dropPlus s)).HasSign ↔ ['+', '+'] <+: s.toList := by
  simp only [HasSign, Part.text, Part.text?, Option.some.injEq, exists_eq_left', Text.plus_isPrefix_dropPlus_iff]

end Web

namespace UserForm

variable {f : UserForm} {i : Id .user}

theorem codeParts_createSubmission (f : UserForm) :
    f.createSubmission.codeParts = [.text "isdCode" (dropPlus f.isdCode)] := by
  rw [Multipart.codeParts, createSubmission, imageParts]
  cases f.image <;> simp [Part.text]

theorem codeParts_editSubmission (f : UserForm) (i : Id .user) :
    (f.editSubmission i).codeParts = Contact.isdCode.parts f := by
  have hother (c : Contact) (hc : c ≠ .isdCode) :
      (c.parts f).filter (fun p ↦ p.name = "isdCode" ∨ p.name = "newIsdCode") = [] := by
    rw [Contact.parts, change]
    split <;> cases c <;> first | exact absurd rfl hc | simp [Part.text, Contact.name, Contact.newName]
  have hcode : (Contact.isdCode.parts f).filter (fun p ↦ p.name = "isdCode" ∨ p.name = "newIsdCode") =
      Contact.isdCode.parts f := by
    rw [Contact.parts, change]
    split <;> simp [Part.text, Contact.name, Contact.newName]
  rw [Multipart.codeParts, editSubmission_parts, imageParts_eq, passwordParts]
  simp only [Contact.all, List.flatMap_cons, List.flatMap_nil, List.filter_append, hcode, hother .email (by decide),
    hother .country (by decide), hother .mobileNumber (by decide)]
  cases f.image <;> cases f.password.isEmpty <;> simp [Part.text, Detail.part, Detail.name, imagePart]

theorem exists_hasSign_editSubmission_iff :
    (∃ p ∈ (f.editSubmission i).codeParts, p.HasSign) ↔
      ['+', '+'] <+: f.formerContact.isdCode.toList ∨ ['+', '+'] <+: f.isdCode.toList := by
  rw [codeParts_editSubmission, Contact.parts, Contact.former, Contact.current, ← dropPlus_eq_writtenCode,
    ← dropPlus_eq_writtenCode, change]
  by_cases h : dropPlus f.formerContact.isdCode = dropPlus f.isdCode
  · -- one part stands for both codes, which are the same once a sign is taken off
    rw [if_pos h, ← Text.plus_isPrefix_dropPlus_iff, h, Text.plus_isPrefix_dropPlus_iff, or_self]
    simp only [List.mem_singleton, exists_eq_left, Part.hasSign_dropPlus_iff]
  · rw [if_neg h]
    simp only [List.mem_cons, List.not_mem_nil, or_false, exists_eq_or_imp, exists_eq_left, Part.hasSign_dropPlus_iff]

theorem hasField_newIsdCode_iff :
    (f.editSubmission i).hasField "newIsdCode" ↔
      dropPluses f.formerContact.isdCode ≠ dropPluses f.isdCode ∨
        Text.sparePluses f.formerContact.isdCode ≠ Text.sparePluses f.isdCode := by
  refine (hasField_newName_iff .isdCode).trans ?_
  rw [Contact.former, Contact.current, ← dropPlus_eq_writtenCode, ← dropPlus_eq_writtenCode, Ne,
    Text.dropPlus_eq_dropPlus_iff, not_and_or]

/-- The dialling codes of a form are sent without one sign in front. So what is sent begins with a sign just if a code
begins with two, and an edit sends a new code just if it differs from the former one without its signs, or in how
many it has besides the first. Only the former difference shows where countries are looked up by the codes. -/
theorem isdCodes_sent (f : UserForm) (i : Id .user) :
    f.createSubmission.codeParts = [.text "isdCode" (dropPlus f.isdCode)] ∧
    ((∃ p ∈ f.createSubmission.codeParts, p.HasSign) ↔ ['+', '+'] <+: f.isdCode.toList) ∧
    ((∃ p ∈ (f.editSubmission i).codeParts, p.HasSign) ↔
      ['+', '+'] <+: f.formerContact.isdCode.toList ∨ ['+', '+'] <+: f.isdCode.toList) ∧
    ((f.editSubmission i).hasField "newIsdCode" ↔
      dropPluses f.formerContact.isdCode ≠ dropPluses f.isdCode ∨
        Text.sparePluses f.formerContact.isdCode ≠ Text.sparePluses f.isdCode) ∧
    ((∀ id countries, Console.lookUpCountry id f.formerContact.isdCode countries =
        Console.lookUpCountry id f.isdCode countries) ↔
      dropPluses f.formerContact.isdCode = dropPluses f.isdCode) := by
  refine ⟨codeParts_createSubmission f, ?_, exists_hasSign_editSubmission_iff, hasField_newIsdCode_iff,
    Console.lookUpCountry_eq_iff⟩
  simp only [codeParts_createSubmission, List.mem_singleton, exists_eq_left, Part.hasSign_dropPlus_iff]

/-- A code with two signs is sent with one of them, and counts as new beside the same code with one sign. -/
theorem isdCodes_sent_but_two_signs :
    let f : UserForm := { blank with isdCode := "++1", formerContact := ⟨"", "+1", none, ""⟩ }
    (∃ p ∈ f.createSubmission.codeParts, p.HasSign) ∧ (f.editSubmission ⟨"u1"⟩).hasField "newIsdCode" ∧
      dropPluses f.formerContact.isdCode = dropPluses f.isdCode ∧
      ∀ id countries, Console.lookUpCountry id f.formerContact.isdCode countries =
        Console.lookUpCountry id f.isdCode countries := by
  intro f
  obtain ⟨-, hcreate, -, hnew, hfound⟩ := isdCodes_sent f ⟨"u1"⟩
  have hsame : dropPluses f.formerContact.isdCode = dropPluses f.isdCode := by decide
  exact ⟨hcreate.mpr (by decide), hnew.mpr (.inr (by decide)), hsame, hfound.mpr hsame⟩

end UserForm

end Backoffice
