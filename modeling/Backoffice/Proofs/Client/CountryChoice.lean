import Backoffice.Client.OpenForm
import Backoffice.Proofs.Record.RoundTrip
import Backoffice.Task.Alone

namespace Backoffice

open Text

namespace Text

variable {c : Char} {s t : String}

theorem count_dropWhile {p : Char → Bool} (h : ¬ p c) (cs : List Char) :
    (cs.dropWhile p).count c = cs.count c := by
  induction cs with
  | nil => rfl
  | cons x xs ih =>
    by_cases hx : p x
    · have hne : x ≠ c := fun he ↦ h (he ▸ hx)
      rw [List.dropWhile_cons_of_pos hx, ih, List.count_cons_of_ne hne]
    · rw [List.dropWhile_cons_of_neg hx]

theorem count_trim (h : ¬ isBlank c) (s : String) : (trim s).toList.count c = s.toList.count c := by
  simp only [trim, trimChars, dropTrailing, String.toList_ofList, List.count_reverse, count_dropWhile h]

theorem mem_trim_iff (h : ¬ isBlank c) : c ∈ (trim s).toList ↔ c ∈ s.toList := by
  rw [← List.count_pos_iff, count_trim h, List.count_pos_iff]

theorem toList_eq_append_dropPlus (s : String) :
    ∃ n, s.toList = List.replicate n '+' ++ (dropPlus s).toList := by
  rw [dropPlus]
  split
  · next cs hs => exact ⟨1, by rw [hs, String.toList_ofList]; rfl⟩
  · exact ⟨0, by rw [String.toList_ofList]; rfl⟩

theorem mem_dropPlus_iff (h : c ≠ '+') : c ∈ (dropPlus s).toList ↔ c ∈ s.toList := by
  obtain ⟨n, hs⟩ := toList_eq_append_dropPlus s
  rw [hs, List.mem_append, List.mem_replicate]
  exact ⟨.inr, fun hc ↦ hc.resolve_left fun hp ↦ h hp.2⟩

/-- Trimming a text cannot hide behind the sign in front of it: both have the same number of signs. -/
theorem trim_of_dropPlus_trim (h : dropPlus (trim s) = dropPlus s) : trim s = s := by
  obtain ⟨n, hs⟩ := toList_eq_append_dropPlus s
  obtain ⟨m, ht⟩ := toList_eq_append_dropPlus (trim s)
  have hcount := count_trim (c := '+') (by decide) s
  rw [h] at ht
  rw [hs, ht, List.count_append, List.count_append, List.count_replicate_self, List.count_replicate_self] at hcount
  have hmn : m = n := Nat.add_right_cancel hcount
  apply String.toList_injective
  rw [hs, ht, hmn]

theorem splitOnce_append_bar (h : '|' ∉ s.toList) (t : String) : splitOnce '|' (s ++ "|" ++ t) = some (s, t) := by
  have hl : (s ++ "|" ++ t).toList = s.toList ++ '|' :: t.toList := by simp
  rw [splitOnce, hl, splitAtFirst_append h, Option.map_some, String.ofList_toList, String.ofList_toList]

theorem exists_eq_append_bar (h : '|' ∈ s.toList) :
    ∃ before after, s = before ++ "|" ++ after ∧ '|' ∉ before.toList := by
  obtain ⟨as, bs, hs, has⟩ := List.eq_append_cons_of_mem h
  refine ⟨String.ofList as, String.ofList bs, String.toList_injective ?_, by rwa [String.toList_ofList]⟩
  simp [hs]

end Text

namespace Id

variable {e : Entity}

theorem parse_of_mem {c : Char} {s : String} (hc : c ∈ s.toList) (hb : ¬ Text.isBlank c) :
    (parse s : Except DomainError (Id e)) = .ok ⟨trim s⟩ := by
  rw [parse, if_neg]
  intro hs
  exact hb (List.all_eq_true.mp hs c hc)

theorem parse_of_trimmed {i : Id e} (h : Trimmed i.text) : parse i.text = .ok i := by
  rw [Trimmed, Text.filled?] at h
  split at h
  · cases h
  · next hb =>
    rw [parse, if_neg hb, Option.some.inj h]

end Id

namespace Country

variable {c : Country}

theorem trimmed_id_of_decode {d : Document} (h : decode d = .ok c) : Trimmed c.id.text := by
  simp only [decode, bind_eq_ok] at h
  obtain ⟨row, -, underscored, -, plain, -, name, -, isd, -, alpha2, -, flag, -, i, hi, hc⟩ := h
  cases hc
  exact trimmed_of_chooseId hi

structure Clean (c : Country) : Prop where
  noBar : '|' ∉ c.isdCode.toList
  trimmed : trim c.isdCode = c.isdCode

/-- A country with the identifier and the dialling code of a form, up to one plus sign in front of the code. -/
structure Fits (c : Country) (f : UserForm) : Prop where
  id : f.countryId = some c.id
  code : dropPlus c.isdCode = dropPlus f.isdCode

end Country

namespace UserForm

variable {f : UserForm} {c : Country}

theorem setCountry_of_not_mem (hb : '|' ∉ c.isdCode.toList) (hi : Trimmed c.id.text) :
    f.setCountry c.selectValue = .ok { f with isdCode := trim c.isdCode, countryId := some c.id } := by
  simp only [setCountry, Country.selectValue, splitOnce_append_bar hb, Id.parse_of_trimmed hi]

theorem setCountry_of_mem (hb : '|' ∈ c.isdCode.toList) :
    ∃ before after, c.isdCode = before ++ "|" ++ after ∧ '|' ∉ before.toList ∧
      f.setCountry c.selectValue =
        .ok { f with isdCode := trim before, countryId := some ⟨trim (after ++ "|" ++ c.id.text)⟩ } := by
  obtain ⟨before, after, hs, hn⟩ := exists_eq_append_bar hb
  have hv : c.selectValue = before ++ "|" ++ (after ++ "|" ++ c.id.text) := by
    rw [Country.selectValue, hs]
    simp only [String.append_assoc]
  have hm : '|' ∈ (after ++ "|" ++ c.id.text).toList := by simp
  refine ⟨before, after, hs, hn, ?_⟩
  simp only [setCountry, hv, splitOnce_append_bar hn, Id.parse_of_mem hm (by decide)]

/-- The form after a country is picked has its identifier unless the code has a bar, and its code, be it up to a
plus sign, only if the code is clean. -/
theorem exists_setCountry (hi : Trimmed c.id.text) (f : UserForm) :
    ∃ g, f.setCountry c.selectValue = .ok g ∧ g = { f with isdCode := g.isdCode, countryId := g.countryId } ∧
      (g.countryId = some c.id ↔ '|' ∉ c.isdCode.toList) ∧ (g.isdCode = c.isdCode ↔ c.Clean) ∧
      (dropPlus c.isdCode = dropPlus g.isdCode ↔ c.Clean) := by
  by_cases hb : '|' ∈ c.isdCode.toList
  · obtain ⟨before, after, hs, hn, hg⟩ := setCountry_of_mem (f := f) hb
    have hn' : '|' ∉ (trim before).toList := mt (mem_trim_iff (by decide)).mp hn
    have hdirty : ¬ c.Clean := fun h ↦ h.noBar hb
    refine ⟨_, hg, rfl, iff_of_false ?_ (not_not_intro hb), iff_of_false ?_ hdirty, iff_of_false ?_ hdirty⟩
    · -- Trimming keeps every bar, and the identifier has one bar less than what was read.
      intro h
      have htext : trim (after ++ "|" ++ c.id.text) = c.id.text := congrArg Id.text (Option.some.inj h)
      have hcount := count_trim (c := '|') (by decide) (after ++ "|" ++ c.id.text)
      have hone : "|".toList.count '|' = 1 := rfl
      simp only [htext, String.toList_append, List.count_append, hone] at hcount
      omega
    · intro (h : trim before = c.isdCode)
      exact hn' (h ▸ hb)
    · intro (h : dropPlus c.isdCode = dropPlus (trim before))
      rw [← mem_dropPlus_iff (by decide), h, mem_dropPlus_iff (by decide)] at hb
      exact hn' hb
  · have hcode : dropPlus c.isdCode = dropPlus (trim c.isdCode) ↔ c.Clean :=
      ⟨fun h ↦ ⟨hb, trim_of_dropPlus_trim h.symm⟩, fun h ↦ by rw [h.trimmed]⟩
    exact ⟨_, setCountry_of_not_mem hb hi, rfl, iff_of_true rfl hb, ⟨fun h ↦ ⟨hb, h⟩, Country.Clean.trimmed⟩, hcode⟩

end UserForm

namespace UserForm

variable {f : UserForm} {c : Country} {countries : List Country}

def named (f : UserForm) (countries : List Country) : Option Country :=
  countries.find? fun c ↦ f.countryId = some c.id

/-- The country that shows as selected in a form when these are loaded. -/
def shown (f : UserForm) (countries : List Country) : Option Country :=
  f.countryId.bind fun i ↦
    (Console.lookUpCountry (some i) f.isdCode countries).filter fun c ↦ dropPlus c.isdCode == dropPlus f.isdCode

theorem named_eq_find? {i : Id .country} (h : f.countryId = some i) :
    f.named countries = countries.find? (·.id = i) := by
  simp only [named, h, Option.some.injEq, eq_comm]

theorem mem_of_named (h : f.named countries = some c) : c ∈ countries ∧ f.countryId = some c.id :=
  ⟨List.mem_of_find?_eq_some h, by simpa using List.find?_some h⟩

theorem shown_of_named (h : f.named countries = some c) (x : Country) :
    f.shown countries = some x ↔ x = c ∧ c.Fits f := by
  obtain ⟨-, hi⟩ := mem_of_named h
  rw [named_eq_find? hi] at h
  simp only [shown, hi, Option.bind_some, Console.lookUpCountry, h, Option.filter_eq_some_iff, Option.some.injEq,
    beq_iff_eq]
  constructor
  · rintro ⟨rfl, hc⟩
    exact ⟨rfl, hi, hc⟩
  · rintro ⟨rfl, hf⟩
    exact ⟨rfl, hf.code⟩

theorem shown_of_not_named (h : f.named countries = none) (x : Country) :
    f.shown countries = some x ↔ f.countryId.isSome ∧ dropPluses f.isdCode ≠ "" ∧
      countries.find? (fun c ↦ dropPluses c.isdCode = dropPluses f.isdCode) = some x ∧
        dropPlus x.isdCode = dropPlus f.isdCode := by
  cases hi : f.countryId with
  | none => simp [shown, hi]
  | some i =>
    rw [named_eq_find? hi] at h
    by_cases he : dropPluses f.isdCode = ""
    · simp [shown, hi, Console.lookUpCountry, h, he]
    · simp [shown, hi, Console.lookUpCountry, h, he, Option.filter_eq_some_iff, beq_eq_decide]

theorem not_fits_of_not_named (h : f.named countries = none) {x : Country} (hx : x ∈ countries) : ¬ x.Fits f := by
  intro hf
  simp only [named, List.find?_eq_none, decide_eq_true_eq] at h
  exact h x hx hf.id

theorem mem_of_shown (h : f.shown countries = some c) :
    c ∈ countries ∧ dropPlus c.isdCode = dropPlus f.isdCode := by
  cases hn : f.named countries with
  | some n =>
    obtain ⟨rfl, hf⟩ := (shown_of_named hn c).mp h
    exact ⟨(mem_of_named hn).1, hf.code⟩
  | none =>
    obtain ⟨-, -, hfind, hc⟩ := (shown_of_not_named hn c).mp h
    exact ⟨List.mem_of_find?_eq_some hfind, hc⟩

/-- The right country shows only as the first one with its identifier. -/
theorem shown_and_fits_iff : f.shown countries = some c ∧ c.Fits f ↔ f.named countries = some c ∧ c.Fits f := by
  refine and_congr_left fun hf ↦ ?_
  cases hn : f.named countries with
  | some n =>
    rw [shown_of_named hn, Option.some.injEq]
    constructor
    · rintro ⟨rfl, -⟩
      rfl
    · rintro rfl
      exact ⟨rfl, hf⟩
  | none => exact iff_of_false (fun h ↦ not_fits_of_not_named hn (mem_of_shown h).1 hf) nofun

theorem shown_and_not_fits_iff : f.shown countries = some c ∧ ¬ c.Fits f ↔
    f.named countries = none ∧ f.countryId.isSome ∧ dropPluses f.isdCode ≠ "" ∧
      countries.find? (fun x ↦ dropPluses x.isdCode = dropPluses f.isdCode) = some c ∧
        dropPlus c.isdCode = dropPlus f.isdCode := by
  cases hn : f.named countries with
  | some n =>
    refine iff_of_false ?_ (nofun : ¬ _)
    rintro ⟨hs, hf⟩
    obtain ⟨rfl, hf'⟩ := (shown_of_named hn c).mp hs
    exact hf hf'
  | none =>
    rw [shown_of_not_named hn]
    constructor
    · rintro ⟨h, -⟩
      exact ⟨rfl, h⟩
    · rintro ⟨-, h⟩
      exact ⟨h, not_fits_of_not_named hn (List.mem_of_find?_eq_some h.2.2.1)⟩

theorem named_of_unique (hc : c ∈ countries) (huniq : ∀ x ∈ countries, f.countryId = some x.id ↔ x = c) :
    f.named countries = some c := by
  obtain ⟨n, hn⟩ : ∃ n, f.named countries = some n := by
    rw [← Option.isSome_iff_exists, named, List.find?_isSome]
    exact ⟨c, hc, decide_eq_true ((huniq c hc).mpr rfl)⟩
  obtain ⟨hmem, hid⟩ := mem_of_named hn
  rw [hn, (huniq n hmem).mp hid]

/-- Where one loaded country has the identifier of the form, just the right countries show. -/
theorem shown_eq_some_iff_of_unique {n : Country} (hn : n ∈ countries)
    (huniq : ∀ x ∈ countries, f.countryId = some x.id ↔ x = n) (c : Country) :
    f.shown countries = some c ↔ c ∈ countries ∧ c.Fits f := by
  rw [shown_of_named (named_of_unique hn huniq)]
  constructor
  · rintro ⟨rfl, hf⟩
    exact ⟨hn, hf⟩
  · rintro ⟨hc, hf⟩
    obtain rfl := (huniq c hc).mp hf.id
    exact ⟨rfl, hf⟩

end UserForm

namespace Desk

variable {d : Desk} {tr : List Exchange}

theorem run_selectedCountry (backend : Backend) (d : Desk) (tr : List Exchange) :
    selectedCountry.run backend d tr = ⟨d.form.shown d.console.context.countries.list.items, d, tr⟩ := by
  cases h : d.form.countryId with
  | none => simp [selectedCountry, Desk.read, Task.bind, Task.run, h, UserForm.shown]
  | some i =>
    simp only [selectedCountry, Desk.read, Task.bind_eq, Task.bind, Task.run, h, UserForm.shown]
    rfl

theorem run_selectCountry_of_ok {v : String} {f : UserForm} (h : d.form.setCountry v = .ok f) (backend : Backend) :
    (selectCountry v).run backend d tr = ⟨.ok f, { d with form := f }, tr⟩ := by
  simp [selectCountry, Desk.read, modifyForm, Task.bind, Task.run, h]

theorem run_selectCountry_of_error {v : String} {e : DomainError} (h : d.form.setCountry v = .error e)
    (backend : Backend) : (selectCountry v).run backend d tr = ⟨.error e, d, tr⟩ := by
  simp [selectCountry, Desk.read, Task.bind, Task.run, h]

/-- The country that shows as selected is loaded and has the dialling code of the form. It is the right one where the
first country with the identifier of the form has that code too. It is a wrong one where no country has the
identifier, and the first one with the code, all signs aside, has it up to one sign. -/
theorem selectedCountry_fits (backend : Backend) (d : Desk) (tr : List Exchange) :
    let countries := d.console.context.countries.list.items
    let r := selectedCountry.run backend d tr
    r.state = d ∧ r.trace = tr ∧
    (∀ c, r.result = some c → c ∈ countries ∧ dropPlus c.isdCode = dropPlus d.form.isdCode) ∧
    (∀ c, r.result = some c ∧ c.Fits d.form ↔ d.form.named countries = some c ∧ c.Fits d.form) ∧
    (∀ c, r.result = some c ∧ ¬ c.Fits d.form ↔
      d.form.named countries = none ∧ d.form.countryId.isSome ∧ dropPluses d.form.isdCode ≠ "" ∧
        countries.find? (fun x ↦ dropPluses x.isdCode = dropPluses d.form.isdCode) = some c ∧
          dropPlus c.isdCode = dropPlus d.form.isdCode) ∧
    ∀ n ∈ countries, (∀ x ∈ countries, d.form.countryId = some x.id ↔ x = n) →
      ∀ c, r.result = some c ↔ c ∈ countries ∧ c.Fits d.form := by
  intro countries r
  have hr : r = ⟨d.form.shown countries, d, tr⟩ := run_selectedCountry backend d tr
  rw [hr]
  exact ⟨rfl, rfl, fun _ ↦ UserForm.mem_of_shown, fun _ ↦ UserForm.shown_and_fits_iff,
    fun _ ↦ UserForm.shown_and_not_fits_iff, fun _ ↦ UserForm.shown_eq_some_iff_of_unique⟩

/-- A form with a country that is not loaded shows another one that shares its dialling code, and one whose country
is loaded twice, first with another code, shows none. -/
theorem selectedCountry_fits_but_shared_code :
    let host : Host := ⟨.empty .memory, ⟨0⟩, fun _ ↦ ⟨List.replicate 32 0, rfl⟩, 0⟩
    let us : Country := ⟨⟨"us"⟩, "United States", "+1", none, ""⟩
    let fresh := Context.fresh (.ofBase "http://h") "host"
    let desk (countries : List Country) (isd id : String) : Desk :=
      ⟨⟨.blank host, { fresh with countries := ⟨⟨countries, false, none, true⟩, 1⟩ }⟩, .create,
        { UserForm.blank with isdCode := isd, countryId := some ⟨id⟩ }⟩
    let known := desk [us] "1" "us"
    let unknown := desk [us] "1" "ca"
    let twice := desk [{ us with isdCode := "9" }, us] "1" "us"
    (selectedCountry.run (fun _ _ ↦ none) known []).result = some us ∧
    ((selectedCountry.run (fun _ _ ↦ none) unknown []).result = some us ∧ ¬ us.Fits unknown.form) ∧
    us.Fits twice.form ∧ (selectedCountry.run (fun _ _ ↦ none) twice []).result = none := by
  intro host us fresh desk known unknown twice
  obtain ⟨-, -, -, -, -, hknown⟩ := selectedCountry_fits (fun _ _ ↦ none) known []
  obtain ⟨-, -, -, -, hwrong, -⟩ := selectedCountry_fits (fun _ _ ↦ none) unknown []
  obtain ⟨-, -, -, hright, hother, -⟩ := selectedCountry_fits (fun _ _ ↦ none) twice []
  have hfits : us.Fits known.form := ⟨rfl, by decide⟩
  refine ⟨(hknown us (by decide) (by decide) us).mpr ⟨by decide, hfits⟩, (hwrong us).mpr (by decide),
    ⟨rfl, by decide⟩, Option.eq_none_iff_forall_ne_some.mpr ?_⟩
  intro c hc
  by_cases hf : c.Fits twice.form
  · -- The first of the two has the identifier, and not the code.
    obtain ⟨hn, -⟩ := (hright c).mp ⟨hc, hf⟩
    cases hn
    exact absurd hf.code (by decide)
  · exact absurd ((hother c).mp ⟨hc, hf⟩).1 (by decide)

/-- Picking a country of the select succeeds and changes its two fields only. They become those of the country, and
it shows as selected, just if its dialling code is clean. Picking what is no country changes nothing. -/
theorem selectCountry_selects {doc : Document} {c : Country} (hc : Country.decode doc = .ok c) (backend : Backend)
    (d : Desk) (tr : List Exchange) :
    (∃ f, d.form.setCountry c.selectValue = .ok f ∧
      (selectCountry c.selectValue).run backend d tr = ⟨.ok f, { d with form := f }, tr⟩ ∧
      f = { d.form with isdCode := f.isdCode, countryId := f.countryId } ∧
      (f.countryId = some c.id ↔ '|' ∉ c.isdCode.toList) ∧ (f.isdCode = c.isdCode ↔ c.Clean) ∧
      let countries := d.console.context.countries.list.items
      (c ∈ countries → (∀ x ∈ countries, x.id = c.id → x = c) →
        ((selectedCountry.run backend { d with form := f } tr).result = some c ↔ c.Clean))) ∧
    ∀ v e, d.form.setCountry v = .error e → (selectCountry v).run backend d tr = ⟨.error e, d, tr⟩ := by
  obtain ⟨f, hf, hframe, hid, hcode, hshown⟩ := UserForm.exists_setCountry (Country.trimmed_id_of_decode hc) d.form
  refine ⟨⟨f, hf, run_selectCountry_of_ok hf backend, hframe, hid, hcode, ?_⟩,
    fun v e h ↦ run_selectCountry_of_error h backend⟩
  intro countries hmem huniq
  rw [run_selectedCountry]
  constructor
  · intro h
    exact hshown.mp (UserForm.mem_of_shown h).2
  · intro hclean
    have hone : ∀ x ∈ countries, f.countryId = some x.id ↔ x = c := by
      intro x hx
      rw [hid.mpr hclean.noBar, Option.some.injEq]
      exact ⟨fun h ↦ huniq x hx h.symm, fun h ↦ h ▸ rfl⟩
    exact (UserForm.shown_eq_some_iff_of_unique hmem hone c).mpr ⟨hmem, hid.mpr hclean.noBar, hshown.mpr hclean⟩

/-- A country whose dialling code has a blank in front of it does not show when it is picked. -/
theorem selectCountry_selects_but_blank_code :
    let host : Host := ⟨.empty .memory, ⟨0⟩, fun _ ↦ ⟨List.replicate 32 0, rfl⟩, 0⟩
    let doc (isd : String) : Document := .obj [(some "_id", .str "in"), (some "isdCode", .str isd)]
    let india (isd : String) : Country := ⟨⟨"in"⟩, "", isd, none, ""⟩
    let fresh := Context.fresh (.ofBase "http://h") "host"
    let desk (isd : String) : Desk :=
      ⟨⟨.blank host, { fresh with countries := ⟨⟨[india isd], false, none, true⟩, 1⟩ }⟩, .create, .blank⟩
    let picked (isd : String) : Desk :=
      ((selectCountry (india isd).selectValue).run (fun _ _ ↦ none) (desk isd) []).state
    let shown (isd : String) := (selectedCountry.run (fun _ _ ↦ none) (picked isd) []).result
    Country.decode (doc "+91") = .ok (india "+91") ∧ Country.decode (doc " 91") = .ok (india " 91") ∧
    shown "+91" = some (india "+91") ∧ (picked " 91").form.isdCode ≠ " 91" ∧ shown " 91" ≠ some (india " 91") := by
  intro host doc india fresh desk picked shown
  have hdecode : ∀ isd, Country.decode (doc isd) = .ok (india isd) := fun isd ↦ rfl
  obtain ⟨⟨f, -, hf, -, -, -, hshown⟩, -⟩ := selectCountry_selects (hdecode "+91") (fun _ _ ↦ none) (desk "+91") []
  obtain ⟨⟨g, -, hg, -, -, hcode, hhidden⟩, -⟩ := selectCountry_selects (hdecode " 91") (fun _ _ ↦ none) (desk " 91") []
  have hclean : (india "+91").Clean := ⟨by decide, by decide⟩
  have hodd : ¬ (india " 91").Clean := fun h ↦ absurd h.trimmed (by decide)
  refine ⟨hdecode _, hdecode _, ?_, ?_, ?_⟩
  · simp only [shown, picked, hf]
    exact (hshown (by decide) (by decide)).mpr hclean
  · simp only [picked, hg]
    exact mt hcode.mp hodd
  · simp only [shown, picked, hg]
    exact mt (hhidden (by decide) (by decide)).mp hodd

end Desk

end Backoffice
