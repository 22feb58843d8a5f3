import Backoffice.Proofs.Record.Parts

namespace Backoffice

open Text

theorem chooseId?_chooseId? (underscored plain : Option String) :
    chooseId? (chooseId? underscored plain) plain = chooseId? underscored plain := by
  cases h : chooseId? underscored plain with
  | none =>
    rw [chooseId?] at h
    have hp : filled? plain = none := by
      cases hu : filled? underscored with
      | none => rwa [hu] at h
      | some s =>
        rw [hu] at h
        cases h
    rw [chooseId?, hp]
    rfl
  | some s =>
    have ht : filled? (some s) = some s := trimmed_of_chooseId? h
    rw [chooseId?, ht]
    rfl

namespace Reference

variable {e : Entity}

theorem merge_merge (flat : Option String) (x : Option Embedded) :
    (merge flat ((merge flat x : Option (Reference e)).map embedded) : Option (Reference e)) = merge flat x := by
  simp only [merge]
  cases hf : filled? flat <;> cases hx : x.bind Embedded.id <;> simp [embedded]

/-- A flat identifier counts whatever is embedded beside it. -/
theorem id_merge {flat : Option String} {r : Reference e} (h : merge flat none = some r) (x : Option Embedded) :
    (merge flat x : Option (Reference e)).map Reference.id = some r.id := by
  simp only [merge] at h ⊢
  cases hf : filled? flat with
  | none =>
    rw [hf] at h
    cases h
  | some f =>
    rw [hf] at h
    cases h
    cases x.bind Embedded.id <;> rfl

end Reference

namespace AdminUser

open Backoffice.AdminUser.Part

namespace Part

def written : Part → AdminUser → Json
  | id, u => .str u.id.text
  | firstName, u => .str u.firstName
  | lastName, u => .str u.lastName
  | email, u => .str u.email
  | mobileNumber, u => .str u.mobileNumber
  | isdCode, u => .str u.isdCode
  | country, u => Json.ofOption (fun i ↦ .str i.text) u.countryId
  | role, u => Json.ofOption Reference.toJson u.role
  | status, u => u.status.toJson
  | client, u => Json.ofOption Reference.toJson u.client
  | businessUnit, u => Json.ofOption Reference.toJson u.businessUnit
  | image, u => Json.ofOption Image.toJson u.image

theorem under_name (p : Part) (u : AdminUser) : Json.under u.members p.name = some (p.written u) := by
  cases p <;> rfl

/-- A user is written under the first name of each part only. -/
theorem under_otherName {p : Part} {n : String} (h : p.otherName? = some n) (u : AdminUser) :
    Json.under u.members n = none := by
  cases p <;> cases h <;> rfl

theorem Same.written {p : Part} {u v : AdminUser} (h : p.Same u v) : p.written u = p.written v := by
  cases p <;> simp only [Same, Part.written] at * <;> rw [h]

end Part

theorem ordered_members (u : AdminUser) : Json.Ordered u.members := by
  have h : (u.members.map Prod.fst).Pairwise (· < ·) := by
    change ["_id", "businessUnit", "client", "countryId", "email", "firstName", "image", "isdCode", "lastName",
      "mobileNumber", "role", "status"].Pairwise (· < ·)
    decide
  exact List.pairwise_map.mp h

variable {patch : Json} {u v m : AdminUser} {p : Part} {n : String}

def patchedAt (patch : Json) (u : AdminUser) (name : String) : Option Json :=
  (patch.given? name).or (Json.under u.members name)

theorem patchedAt_of_missing (h : patch.given? n = none) : patchedAt patch u n = Json.under u.members n := by
  rw [patchedAt, h, Option.none_or]

theorem patchedAt_of_given (h : (patch.given? n).isSome) : patchedAt patch u n = patch.given? n := by
  rw [patchedAt, Option.or_of_isSome h]

theorem patchedAt_otherName (h : p.otherName? = some n) : patchedAt patch u n = patch.given? n := by
  rw [patchedAt, under_otherName h, Option.or_none]

/-- What a patch gives under the first name of a part decides it, whoever it is laid over. -/
theorem patchedAt_of_given_name (h : (patch.given? p.name).isSome) :
    ∀ n ∈ p.names, patchedAt patch u n = patch.given? n := by
  intro n hn
  rcases List.mem_cons.mp hn with rfl | hn
  · exact patchedAt_of_given h
  · exact patchedAt_otherName (Option.mem_toList.mp hn)

theorem decode_overlay_iff :
    decodeValue decode (u.toJson.overlay patch) = .ok m ↔ ∀ p : Part, p.Reads (patchedAt patch u) m := by
  have hu : Json.under (u.toJson.overlay patch).members = patchedAt patch u :=
    funext fun name ↦ Json.lookup_overlay u.members patch name
  rw [← hu]
  exact ⟨fun h ↦ reads_of_decode h, decode_of_reads ((ordered_members u).overlay patch).nodup⟩

theorem merge_of_decode (h : decodeValue decode (u.toJson.overlay patch) = .ok m) : u.merge patch = m := by
  rw [decodeValue] at h
  rw [merge, h]

theorem merge_of_not_decode (h : ∀ m, decodeValue decode (u.toJson.overlay patch) ≠ .ok m) : u.merge patch = u := by
  rw [merge]
  split
  · next m hm => exact (h m hm).elim
  · rfl

theorem same_of_unnamed (hu : p.Reads (Json.under u.members) u) (hm : p.Reads (patchedAt patch u) m)
    (h : ∀ n ∈ p.names, patch.given? n = none) : p.Same m u :=
  (hm.congr fun n hn ↦ patchedAt_of_missing (h n hn)).same hu

theorem readsReference_again {e : Entity} {flatName : String} {r : Option (Reference e)}
    (h : ReadsReference (patchedAt patch u) flatName n r) (hc : ∀ x, r = some x → x.Canonical)
    (hflat : patchedAt patch u flatName = patchedAt patch m flatName)
    (hn : patchedAt patch m n = some (Json.ofOption Reference.toJson r)) :
    ReadsReference (patchedAt patch m) flatName n r := by
  obtain ⟨flat, x, hf, -, he⟩ := h
  refine ⟨flat, r.map Reference.embedded, readAt_congr hflat hf, ?_, ?_⟩
  · exact (readAt_of_some hn).trans (Reference.optional_toJson hc)
  · rw [he, Reference.merge_merge]

/-- What a patch laid over a user reads as, it reads as again when it is laid over the outcome. -/
theorem reads_again (hc : m.Canonical) (hu : p.Reads (Json.under u.members) u)
    (hm : p.Reads (patchedAt patch u) m) : p.Reads (patchedAt patch m) m := by
  by_cases hg : (patch.given? p.name).isSome
  · exact hm.congr fun n hn ↦ (patchedAt_of_given_name hg n hn).trans (patchedAt_of_given_name hg n hn).symm
  have hn : patch.given? p.name = none := Option.not_isSome_iff_eq_none.mp hg
  have first (w : AdminUser) : patchedAt patch w p.name = some (p.written w) := by
    rw [patchedAt_of_missing hn, under_name]
  have other {n : String} (ho : p.otherName? = some n) : patchedAt patch u n = patchedAt patch m n := by
    rw [patchedAt_otherName ho, patchedAt_otherName ho]
  have alone (ho : p.otherName? = none) : p.Reads (patchedAt patch m) m := by
    have hnames : ∀ n ∈ p.names, n = p.name := fun n h ↦ by simpa [names, ho] using h
    have hs : p.Same m u := same_of_unnamed hu hm fun n h ↦ hnames n h ▸ hn
    refine hm.congr fun n h ↦ ?_
    rw [hnames n h, first, first, hs.written]
  -- With a second name the part may come from the patch, and the second time from the outcome.
  cases p with
  | id =>
    obtain ⟨_, plain, -, hplain, -⟩ := hm
    exact ⟨_, plain, readAt_of_some (first m), readAt_congr (other rfl) hplain, chooseId_of_trimmed hc.id⟩
  | country =>
    obtain ⟨id, plain, -, hplain, he⟩ := hm
    have ht : m.countryId.map Id.text = chooseId? id plain := by
      rw [he]
      cases chooseId? id plain <;> rfl
    refine ⟨m.countryId.map Id.text, plain, ?_, readAt_congr (other rfl) hplain, ?_⟩
    · exact (readAt_of_some (first m)).trans (optional_country m.countryId)
    · rw [ht, chooseId?_chooseId?]
      exact he
  | client => exact readsReference_again hm hc.client (other rfl) (first m)
  | businessUnit => exact readsReference_again hm hc.businessUnit (other rfl) (first m)
  | _ => exact alone rfl

/-- Over a user that is read back as it was written, a patch changes nothing where it is no object or does not fit.
Else it leaves each part alone that it does not name. Laid over again it changes nothing more. -/
theorem merge_idempotent (h : decodeValue decode u.toJson = .ok u) (patch : Json) :
    (patch.isObject = false → u.merge patch = u) ∧
    ((∀ m, decodeValue decode (u.toJson.overlay patch) ≠ .ok m) → u.merge patch = u) ∧
    (∀ p : Part, (∀ n ∈ p.names, patch.member? n = none) → p.Same (u.merge patch) u) ∧
    (u.merge patch).merge patch = u.merge patch := by
  have hu (p : Part) : p.Reads (Json.under u.members) u := reads_of_decode h p
  refine ⟨fun ho ↦ ?_, merge_of_not_decode, ?_⟩
  · refine merge_of_decode ?_
    rwa [Json.overlay_of_not_object ho]
  by_cases hm : ∃ m, decodeValue decode (u.toJson.overlay patch) = .ok m
  · obtain ⟨m, hm⟩ := hm
    have hr := decode_overlay_iff.mp hm
    rw [merge_of_decode hm]
    refine ⟨fun p hn ↦ ?_, merge_of_decode (decode_overlay_iff.mpr fun p ↦ ?_)⟩
    · exact same_of_unnamed (hu p) (hr p) fun n hp ↦ Json.given?_eq_none_iff.mpr (hn n hp)
    · exact reads_again (canonical_of_decode hm) (hu p) (hr p)
  · have he : u.merge patch = u := merge_of_not_decode (not_exists.mp hm)
    rw [he]
    exact ⟨fun p _ ↦ .refl p u, he⟩

/-- A flat identifier supersedes an embedded client, and with its name gone it does so again. -/
theorem merge_idempotent_of_flat_client :
    let u : AdminUser := ⟨⟨"u1"⟩, "Ada", "Lovelace", "", "", "", some ⟨"in"⟩, none, .active,
      some ⟨⟨"c1"⟩, some "Acme"⟩, none, none⟩
    let patch : Json := .obj [("clientId", .str "c2"), ("firstName", .str "Augusta")]
    decodeValue decode u.toJson = .ok u ∧ u.merge patch ≠ u ∧ (u.merge patch).client = some ⟨⟨"c2"⟩, none⟩ ∧
      (u.merge patch).lastName = "Lovelace" ∧ (u.merge patch).countryId = some ⟨"in"⟩ ∧
      (u.merge patch).merge patch = u.merge patch := by
  intro u patch
  have h : decodeValue decode u.toJson = .ok u := by decide
  obtain ⟨-, -, hs, hi⟩ := merge_idempotent h patch
  have hc : (u.merge patch).client = some ⟨⟨"c2"⟩, none⟩ := by decide
  refine ⟨h, fun he ↦ ?_, hc, hs .lastName (by decide), hs .country (by decide), hi⟩
  rw [he] at hc
  exact absurd hc (by decide)

def recordOf (patch : Json) (id : Id .user) : Json :=
  .ofMembers (patch.members ++ [("_id", .str id.text)])

abbrev recordAt (patch : Json) (id : Id .user) : String → Option Json := Json.under (recordOf patch id).members

theorem recordAt_eq (patch : Json) (id : Id .user) (name : String) :
    recordAt patch id name = if name = "_id" then some (.str id.text) else patch.given? name := by
  have h : recordAt patch id name =
      ((patch.members ++ [("_id", Json.str id.text)]).reverse.lookup name).or none := Json.lookup_foldl_put _ []
  rw [h, Option.or_none, List.reverse_append, List.reverse_singleton, List.singleton_append, List.lookup_cons]
  by_cases hn : name = "_id" <;> simp [hn, Json.given?, beq_false_of_ne]

theorem recordAt_of_mem (hp : p ≠ .id) (hn : n ∈ p.names) (i : Id .user) : recordAt patch i n = patch.given? n := by
  have h : n ≠ "_id" := by
    rintro rfl
    revert hn
    cases p with
    | id => exact (hp rfl).elim
    | _ => decide
  rw [recordAt_eq, if_neg h]

theorem recordAt_of_missing (hp : p ≠ .id) (hg : ¬ (patch.member? p.name).isSome) (i : Id .user) :
    recordAt patch i p.name = none := by
  rw [recordAt_of_mem hp List.mem_cons_self]
  exact Json.given?_eq_none_iff.mpr (Option.not_isSome_iff_eq_none.mp hg)

theorem patchedAt_eq_recordAt (hp : p ≠ .id) (ho : p.otherName? = some n) (i : Id .user) :
    patchedAt patch u n = recordAt patch i n := by
  rw [patchedAt_otherName ho, recordAt_of_mem hp (by simp [names, ho])]

theorem exists_readAt_given {α : Type} {dec : Decoder α} {x : Option α}
    (h : readAt (patchedAt patch u) n dec = .ok x) : ∃ y, readAt patch.given? n dec = .ok y := by
  by_cases hg : (patch.given? n).isSome
  · exact ⟨x, readAt_congr (patchedAt_of_given hg) h⟩
  · exact ⟨none, readAt_of_none (Option.not_isSome_iff_eq_none.mp hg)⟩

theorem exists_readsText_given {t : String} (h : ReadsText (patchedAt patch u) n t) :
    ∃ s, ReadsText patch.given? n s := by
  obtain ⟨_, h, -⟩ := h
  obtain ⟨s, hs⟩ := exists_readAt_given h
  exact ⟨_, s, hs, rfl⟩

theorem exists_readsReference_given {e : Entity} {flatName : String} {r : Option (Reference e)}
    (h : ReadsReference (patchedAt patch u) flatName n r) :
    ∃ r : Option (Reference e), ReadsReference patch.given? flatName n r := by
  obtain ⟨_, _, hflat, hx, -⟩ := h
  obtain ⟨flat, hflat⟩ := exists_readAt_given hflat
  obtain ⟨x, hx⟩ := exists_readAt_given hx
  exact ⟨_, flat, x, hflat, hx, rfl⟩

theorem exists_reads_given (hp : p ≠ .id) (h : p.Reads (patchedAt patch u) m) : ∃ v, p.Reads patch.given? v := by
  cases p with
  | id => exact (hp rfl).elim
  | firstName => exact (exists_readsText_given h).imp' (fun s ↦ { u with firstName := s }) fun _ h ↦ h
  | lastName => exact (exists_readsText_given h).imp' (fun s ↦ { u with lastName := s }) fun _ h ↦ h
  | email => exact (exists_readsText_given h).imp' (fun s ↦ { u with email := s }) fun _ h ↦ h
  | mobileNumber => exact (exists_readsText_given h).imp' (fun s ↦ { u with mobileNumber := s }) fun _ h ↦ h
  | isdCode => exact (exists_readsText_given h).imp' (fun s ↦ { u with isdCode := s }) fun _ h ↦ h
  | country =>
    obtain ⟨_, _, h, h', -⟩ := h
    obtain ⟨id, hid⟩ := exists_readAt_given h
    obtain ⟨other, ho⟩ := exists_readAt_given h'
    exact ⟨{ u with countryId := (chooseId? id other).map Id.mk }, id, other, hid, ho, rfl⟩
  | role =>
    obtain ⟨_, h, -⟩ := h
    obtain ⟨x, hx⟩ := exists_readAt_given h
    exact ⟨{ u with role := Reference.merge none x }, x, hx, rfl⟩
  | status =>
    obtain ⟨_, h, -⟩ := h
    obtain ⟨s, hs⟩ := exists_readAt_given h
    exact ⟨{ u with status := s.getD .active }, s, hs, rfl⟩
  | client => exact (exists_readsReference_given h).imp' (fun r ↦ { u with client := r }) fun _ h ↦ h
  | businessUnit => exact (exists_readsReference_given h).imp' (fun r ↦ { u with businessUnit := r }) fun _ h ↦ h
  | image =>
    obtain ⟨x, hx⟩ := exists_readAt_given h
    exact ⟨{ u with image := x }, hx⟩

/-- A patch that fits a user is a record of its own once it has the user's identifier. -/
theorem exists_decode_recordOf (hu : u.Canonical) (h : ∀ p : Part, p.Reads (patchedAt patch u) m) :
    ∃ v, decodeValue decode (recordOf patch u.id) = .ok v := by
  have hn : Json.Ordered (recordOf patch u.id).members := Json.ordered_foldl_put List.Pairwise.nil
  have hid : Part.id.Reads (recordAt patch u.id) u := by
    obtain ⟨_, plain, -, hplain, -⟩ := h .id
    have hs : recordAt patch u.id "_id" = some (.str u.id.text) := by simp [recordAt_eq]
    refine ⟨some u.id.text, plain, readAt_of_some hs, readAt_congr ?_ hplain, chooseId_of_trimmed hu.id⟩
    rw [patchedAt_otherName (p := .id) rfl, recordAt_eq, if_neg (by decide)]
  have hparts (p : Part) : ∃ v, p.Reads (recordAt patch u.id) v := by
    by_cases hp : p = .id
    · exact ⟨u, hp ▸ hid⟩
    · obtain ⟨v, hv⟩ := exists_reads_given hp (h p)
      exact ⟨v, hv.congr fun n hn ↦ (recordAt_of_mem hp hn u.id).symm⟩
  obtain ⟨v, hv⟩ := exists_of_parts hparts
  exact ⟨v, decode_of_reads hn.nodup hv⟩

theorem same_of_given {i : Id .user} (hp : p ≠ .id) (hm : p.Reads (patchedAt patch u) m)
    (hv : p.Reads (recordAt patch i) v) (hg : (patch.member? p.name).isSome) : p.Same m v := by
  have hg' : (patch.given? p.name).isSome := by
    refine Option.isSome_iff_ne_none.mpr fun hn ↦ ?_
    rw [Json.given?_eq_none_iff.mp hn] at hg
    cases hg
  exact (hm.congr fun n hn ↦
    (patchedAt_of_given_name hg' n hn).trans (recordAt_of_mem hp hn i).symm).same hv

theorem id_of_readsReference {e : Entity} {flatName : String} {get get' : String → Option Json}
    {r r' : Option (Reference e)} (h : ReadsReference get flatName n r) (h' : ReadsReference get' flatName n r')
    (hn : get' n = none) (hflat : get flatName = get' flatName) {x : Reference e} (hx : r' = some x) :
    r.map Reference.id = some x.id := by
  obtain ⟨flat, y, hf, -, he⟩ := h
  obtain ⟨flat', y', hf', hy', he'⟩ := h'
  cases (readAt_of_none hn).symm.trans hy'
  cases hf'.symm.trans (readAt_congr hflat hf)
  rw [he]
  exact Reference.id_merge (he'.symm.trans hx) y

/-- A country that is given under the second name alone counts only where the user has none. -/
theorem country_of_other {i : Id .user} (hu : u.Canonical) (hm : Part.country.Reads (patchedAt patch u) m)
    (hv : Part.country.Reads (recordAt patch i) v) (hg : ¬ (patch.member? "countryId").isSome) :
    m.countryId = u.countryId.or v.countryId := by
  obtain ⟨id, plain, hid, hplain, he⟩ := hm
  obtain ⟨id', plain', hid', hplain', he'⟩ := hv
  cases (readAt_of_none (recordAt_of_missing (p := .country) nofun hg i)).symm.trans hid'
  cases hplain'.symm.trans (readAt_congr (patchedAt_eq_recordAt (p := .country) nofun rfl i) hplain)
  have hg' : patch.given? "countryId" = none :=
    Json.given?_eq_none_iff.mpr (Option.not_isSome_iff_eq_none.mp hg)
  have hw : patchedAt patch u "countryId" = some (Part.country.written u) :=
    (patchedAt_of_missing hg').trans (under_name .country u)
  cases hid.symm.trans ((readAt_of_some hw).trans (optional_country u.countryId))
  rw [he, he']
  cases hj : u.countryId with
  | none => rfl
  | some j =>
    rw [Option.map_some, chooseId?, hu.country j hj]
    rfl

/-- A patch supersedes. A patch that fits a decoded user is a record of its own with the user's identifier, and
each part that the patch gives under the name which the part is written under is as in that record. A role, a
client or a business unit that the record has is the one of the merged user, under whichever name the patch gives
it. So is a country that the patch gives as `countryId`; one that it gives as `isdCodeCountryId` alone only counts
where the user had none. -/
theorem merge_supersedes {d : Document} (hu : decode d = .ok u)
    (hm : decodeValue decode (u.toJson.overlay patch) = .ok m) :
    u.merge patch = m ∧ ∃ v, decodeValue decode (recordOf patch u.id) = .ok v ∧
      (∀ p : Part, p ≠ .id → (patch.member? p.name).isSome → p.Same m v) ∧
      (∀ r, v.role = some r → m.role = some r) ∧
      (∀ r, v.client = some r → m.clientId = some r.id) ∧
      (∀ r, v.businessUnit = some r → m.businessUnitId = some r.id) ∧
      ∀ i, v.countryId = some i →
        m.countryId = if (patch.member? "countryId").isSome then some i else u.countryId.or (some i) := by
  have hc := canonical_of_decode hu
  have hr := decode_overlay_iff.mp hm
  obtain ⟨v, hv⟩ := exists_decode_recordOf hc hr
  have hread (p : Part) : p.Reads (recordAt patch u.id) v := reads_of_decode hv p
  have hsame {p : Part} (hp : p ≠ .id) (hg : (patch.member? p.name).isSome) : p.Same m v :=
    same_of_given hp (hr p) (hread p) hg
  refine ⟨merge_of_decode hm, v, hv, fun p ↦ hsame, fun r h ↦ ?_, fun r h ↦ ?_, fun r h ↦ ?_, fun i h ↦ ?_⟩
  · by_cases hg : (patch.member? "role").isSome
    · exact (hsame (p := .role) nofun hg).trans h
    · obtain ⟨x, hx, he⟩ := hread .role
      cases (readAt_of_none (recordAt_of_missing (p := .role) nofun hg u.id)).symm.trans hx
      cases he.symm.trans h
  · by_cases hg : (patch.member? "client").isSome
    · exact congrArg (Option.map Reference.id) ((hsame (p := .client) nofun hg).trans h)
    · exact id_of_readsReference (hr .client) (hread .client)
        (recordAt_of_missing (p := .client) nofun hg u.id)
        (patchedAt_eq_recordAt (p := .client) nofun rfl u.id) h
  · by_cases hg : (patch.member? "businessUnit").isSome
    · exact congrArg (Option.map Reference.id) ((hsame (p := .businessUnit) nofun hg).trans h)
    · exact id_of_readsReference (hr .businessUnit) (hread .businessUnit)
        (recordAt_of_missing (p := .businessUnit) nofun hg u.id)
        (patchedAt_eq_recordAt (p := .businessUnit) nofun rfl u.id) h
  · by_cases hg : (patch.member? "countryId").isSome
    · rw [if_pos hg]
      exact (hsame (p := .country) nofun hg).trans h
    · rw [if_neg hg, country_of_other hc (hr .country) (hread .country) hg, h]

/-- A first name and a flat unit supersede. A country under its second name does not. -/
theorem merge_supersedes_but_second_country :
    let d : Document := .obj [(some "_id", .str "u1"), (some "countryId", .str "in"),
      (some "businessUnit", .obj [(some "_id", .str "b1"), (some "name", .str "Beta")])]
    let patch : Json := .obj [("businessUnitId", .str "b2"), ("firstName", .str "Augusta"),
      ("isdCodeCountryId", .str "fr")]
    ∃ u m v, decode d = .ok u ∧ decodeValue decode (u.toJson.overlay patch) = .ok m ∧ u.merge patch = m ∧
      decodeValue decode (recordOf patch u.id) = .ok v ∧ m.firstName = "Augusta" ∧
      m.businessUnitId = some ⟨"b2"⟩ ∧ v.countryId = some ⟨"fr"⟩ ∧ m.countryId = some ⟨"in"⟩ := by
  intro d patch
  obtain ⟨hp, v, hv, hs, -, -, hunit, hcountry⟩ := @merge_supersedes patch _ _ d rfl rfl
  cases hv
  exact ⟨_, _, _, rfl, rfl, hp, rfl, hs .firstName nofun rfl, hunit _ rfl, rfl, hcountry _ rfl⟩

end AdminUser

end Backoffice
