import Backoffice.Proofs.Account.Device
import Backoffice.Proofs.Client.Course

namespace Backoffice

open Web (Request Body)

namespace Text

theorem trim_of_forall_not {s : String} (h : ∀ c ∈ s.toList, isBlank c = false) : trim s = s := by
  have hd : s.toList.dropWhile isBlank = s.toList := List.dropWhile_eq_self_iff.mpr fun hl ↦ by
    rw [h _ (List.getElem_mem hl)]
    exact nofun
  have hr : s.toList.reverse.dropWhile isBlank = s.toList.reverse := List.dropWhile_eq_self_iff.mpr fun hl ↦ by
    rw [h _ (List.mem_reverse.mp (List.getElem_mem hl))]
    exact nofun
  rw [trim, trimChars, hd, dropTrailing, hr, List.reverse_reverse, String.ofList_toList]

end Text

theorem DeviceId.parse_write (id : DeviceId) : parse id.write = .ok id := by
  obtain ⟨a, b, c, d, e, hw, -⟩ := Uuid.write_hyphenated id
  rw [parse, Text.trim_of_forall_not hw.not_blank, Uuid.read?_write]

namespace Json

variable {name : String} {v : Json}

theorem member?_ofMembers_append (before : List (String × Json)) {after : List (String × Json)}
    (h : ∀ m ∈ after, m.1 ≠ name) :
    (ofMembers (before ++ (name, v) :: after)).member? name = some v := by
  have ha : after.reverse.lookup name = none := List.lookup_eq_none_iff.mpr fun m hm ↦
    bne_iff_ne.mpr (h m (List.mem_reverse.mp hm)).symm
  simp only [ofMembers, member?, List.foldl_append, List.foldl_cons, lookup_foldl_put after, ha, lookup_put,
    Option.none_or, if_true]

end Json

/-- What a body names a device by: as a login does, or as a call for new tokens does. -/
def Web.Body.devices : Body → List Json
  | .json v => (v.member? "deviceId").toList ++ (v.member? "identifier").toList
  | _ => []

theorem DeviceInfo.name_of_mem_written {name : String} {s : Option String} {m : String × Json}
    (h : m ∈ written name s) : m.1 = name := by
  cases s with
  | none => cases h
  | some s => rw [List.mem_singleton.mp h]

theorem DeviceInfo.exists_members (i : DeviceInfo) : ∃ rest, i.members = ("deviceId", .str i.deviceId.write) :: rest ∧
    ∀ m ∈ rest, m.1 ∈ ["deviceName", "deviceType", "appVersion", "osVersion", "pushToken", "location"] := by
  let rest := written "deviceName" i.deviceName ++
    [("deviceType", .str i.deviceType.name), ("appVersion", .str i.appVersion)] ++
    written "osVersion" i.osVersion ++ written "pushToken" i.pushToken ++ written "location" i.location
  refine ⟨rest, rfl, fun m hm ↦ ?_⟩
  simp only [rest, List.append_assoc, List.mem_append, List.mem_cons, List.not_mem_nil, or_false] at hm
  rcases hm with h | (rfl | rfl) | h | h | h
  · simp [name_of_mem_written h]
  · simp
  · simp
  · simp [name_of_mem_written h]
  · simp [name_of_mem_written h]
  · simp [name_of_mem_written h]

theorem LoginPayload.devices_toJson (payload : LoginPayload) :
    (Body.json payload.toJson).devices = [.str payload.device.deviceId.write] := by
  obtain ⟨rest, hm, hr⟩ := payload.device.exists_members
  have hd : payload.toJson.member? "deviceId" = some (.str payload.device.deviceId.write) := by
    rw [toJson, hm]
    refine Json.member?_ofMembers_append [("email", _), ("password", _)] fun m hm he ↦ ?_
    have h := hr m hm
    rw [he] at h
    exact absurd h (by decide)
  have hi : payload.toJson.member? "identifier" = none := by
    rw [toJson, hm]
    refine Json.member?_ofMembers fun m hm he ↦ ?_
    simp only [List.mem_cons] at hm
    rcases hm with rfl | rfl | rfl | hm
    · simp at he
    · simp at he
    · simp at he
    · have h := hr m hm
      rw [he] at h
      exact absurd h (by decide)
  simp only [Body.devices, hd, hi, Option.toList_some, Option.toList_none, List.append_nil]

theorem Call.devices_renewal (routes : Routes) (id : DeviceId) (token : String) :
    (renewal routes id token).body.devices = [.str id.write] := rfl

namespace Sight

theorem identified_of_some (s : Sight) {id : DeviceId} (h : s.keptDevice = some id) : s.identified = s := by
  rw [identified, h]

theorem identified_of_none (s : Sight) (h : s.keptDevice = none) :
    s.identified = { s with issued := s.issued + 1 }.keep Profile.deviceKey (some s.deviceId.write) := by
  rw [identified, h]

theorem keptDevice_keep (s : Sight) (id : DeviceId) :
    (s.keep Profile.deviceKey (some id.write)).keptDevice = some id := by
  simp only [keptDevice, keep, if_true, Option.map_some, DeviceId.parse_write, Option.bind_some, Except.toOption]

end Sight

namespace Host

def keptDevice (h : Host) : Option DeviceId :=
  ((h.durable.entries.get? (Profile.localKey Profile.deviceKey)).map DeviceId.parse).bind Except.toOption

/-- The identifier of the installation: the one that is stored, else the one that is made next. -/
def device (h : Host) : DeviceId := h.keptDevice.getD (h.deviceIds h.issued)

/-- What keeps the identity of an installation: its identifier is stored as before, or has been made. -/
inductive Identifies (h₀ h : Host) : Prop
  | before (hk : h.keptDevice = h₀.keptDevice) (hn : h.issued = h₀.issued)
  | made (hk : h.keptDevice = some h₀.device) (h₀k : h₀.keptDevice = none) (hn : h.issued = h₀.issued + 1)

structure Remains (h₀ h : Host) : Prop where
  reliable : h.durable.Reliable
  deviceIds : h.deviceIds = h₀.deviceIds
  identifies : h₀.Identifies h

variable {h₀ h : Host}

theorem Remains.refl (hr : h.durable.Reliable) : h.Remains h := ⟨hr, rfl, .before rfl rfl⟩

theorem Remains.device (hr : h₀.Remains h) : h.device = h₀.device := by
  cases hr.identifies with
  | before hk hn => rw [Host.device, Host.device, hk, hn, hr.deviceIds]
  | made hk => rw [Host.device, hk, Option.getD_some]

theorem Remains.perform {α : Type} {c : StoreCall} {f : Table → α × Table} (hr : h₀.Remains h)
    (hf : ∀ t, (f t).2.get? (Profile.localKey Profile.deviceKey) =
      t.get? (Profile.localKey Profile.deviceKey)) :
    h₀.Remains { h with durable := (h.durable.perform c f).2 } := by
  rw [hr.reliable.perform]
  have hk : Host.keptDevice { h with durable := { h.durable with
      calls := h.durable.calls + 1, entries := (f h.durable.entries).2 } } = h.keptDevice := by
    simp only [keptDevice, hf]
  refine ⟨hr.reliable.later _, hr.deviceIds, ?_⟩
  cases hr.identifies with
  | before hkept hn => exact .before (hk.trans hkept) hn
  | made hkept h₀k hn => exact .made (hk.trans hkept) h₀k hn

theorem Remains.deviceId {p : Profile} (hr : h₀.Remains p.host) :
    (Profile.deviceId.run p).1 = .ok h₀.device ∧ h₀.Remains (Profile.deviceId.run p).2.host := by
  have hs := Profile.deviceId_succeeds p.sight
  obtain ⟨p', he, hp'⟩ := hs.total hr.reliable rfl
  have hd : p.sight.deviceId = h₀.device := hr.device
  have hsight := (hs.effect rfl he).2
  change ((Profile.deviceId p).1 = _ ∧ h₀.Remains (Profile.deviceId p).2.host)
  rw [he, hd]
  refine ⟨rfl, ?_⟩
  have hkept : p'.host.keptDevice = p'.sight.keptDevice := rfl
  have hids : p'.host.deviceIds = p'.sight.deviceIds := rfl
  have hn : p'.host.issued = p'.sight.issued := rfl
  cases hk : p.sight.keptDevice with
  | some id =>
    rw [hsight, p.sight.identified_of_some hk] at hkept hids hn
    refine ⟨hp', hids.trans hr.deviceIds, ?_⟩
    cases hr.identifies with
    | before hq hm => exact .before (hkept.trans hq) (hn.trans hm)
    | made hq h₀k hm => exact .made (hkept.trans hq) h₀k (hn.trans hm)
  | none =>
    rw [hsight, p.sight.identified_of_none hk] at hkept hids hn
    rw [Sight.keptDevice_keep, hd] at hkept
    refine ⟨hp', hids.trans hr.deviceIds, ?_⟩
    cases hr.identifies with
    | before hq hm => exact .made hkept (hq.symm.trans hk) (hn.trans (congrArg (· + 1) hm))
    | made hq => cases hk.symm.trans hq

end Host

def Kinship.device (h₀ : Host) : Kinship where
  values _ := Eq
  fit := h₀.Remains
  devices id := id = h₀.device

theorem Kinship.device_lawful (h₀ : Host) : (Kinship.device h₀).Lawful where
  refl _ _ := rfl
  empty h := by rw [h]
  access := id
  ticks _ h := by
    refine ⟨h.reliable, h.deviceIds, ?_⟩
    cases h.identifies with
    | before hk hn => exact .before hk hn
    | made hk h₀k hn => exact .made hk h₀k hn
  get _ h := h.perform fun _ ↦ rfl
  keys _ h := h.perform fun _ ↦ rfl
  set _ _ hk h := h.perform fun t ↦ (Table.get?_put t _ _ _).trans (if_neg hk.symm)
  remove _ hk h := h.perform fun t ↦ (Table.get?_erase t _ _).trans (if_neg hk.symm)
  deviceId _ h := h.deviceId.2
  devices _ _ h he := Except.ok.inj (he.symm.trans h.deviceId.1)

def Bond.device (h₀ : Host) : Bond where
  kin := .device h₀
  known _ := True
  allows _ _ body := ∀ d ∈ body.devices, d = .str h₀.device.write
  sends r r' := r = r' ∧ ∀ d ∈ r.body.devices, d = .str h₀.device.write

theorem Bond.device_lawful (h₀ : Host) : (Bond.device h₀).Lawful where
  kin := Kinship.device_lawful h₀
  plain := ⟨fun _ _ ↦ nofun, fun _ _ _ ↦ nofun, fun _ _ _ _ ↦ nofun⟩
  requests ha hr := by
    obtain ⟨_, -, rfl⟩ := Call.request?_eq_some (c := ⟨_, _, _, _⟩) hr
    exact ⟨rfl, ha⟩
  logins {payload} _ hd d hm := by
    rw [payload.devices_toJson, List.mem_singleton] at hm
    rw [hm, hd]
  renewals _ hv hd hr hr' := by
    cases hv
    cases hd
    cases hr.symm.trans hr'
    refine ⟨rfl, fun d hm ↦ ?_⟩
    obtain ⟨_, -, rfl⟩ := Call.request?_eq_some hr
    simpa only [Call.devices_renewal, List.mem_singleton] using hm

def Operation.Names (id : DeviceId) : {α : Type} → Operation α → Prop
  | _, loginWith payload _ => payload.device.deviceId = id
  | _, request _ _ body => ∀ d ∈ body.devices, d = .str id.write
  | _, sendEnvelope _ _ _ body => ∀ d ∈ body.devices, d = .str id.write
  | _, postPublic _ body => ∀ d ∈ (Body.json body).devices, d = .str id.write
  | _, _ => True

def Leg.Names (id : DeviceId) : Leg → Prop
  | .ran op _ => op.Names id
  | _ => True

theorem Bond.device_suits {h₀ : Host} {e : Leg} (he : e.Names h₀.device) : (Bond.device h₀).Suits e := by
  cases e with
  | opened | ticked => exact trivial
  | ran op a =>
    cases op with
    | loginWith payload remember => exact fun _ ↦ (Bond.device_lawful h₀).logins _ he
    | request | sendEnvelope | postPublic => exact he
    | viewForm f =>
      intro d d' hd
      obtain ⟨⟨hp, hx, -⟩, hm, hf⟩ := hd
      have hp := hp.eq fun _ _ _ ↦ id
      obtain ⟨⟨p, x⟩, m, f⟩ := d
      cases hp
      cases hx
      cases hm
      cases hf
      rfl
    | _ => exact trivial

/-- An installation has one device identity. Whatever happens to a client over a store that refuses nothing, to
those that are started after it too, each login and each call for new tokens names the device by one and the
same text, a hyphenated identifier with lower-case digits. It is the identifier that was stored, if one could be
read, and then none is ever made; else it is the first one that is made, and no other is. -/
theorem Course.one_device {k : Clock} {net : Network World} {w v : World} {legs : List Leg}
    (hs : net.Serves k) (hr : w.1.host.durable.Reliable) (hd : ∀ e ∈ legs, e.Names w.1.host.device)
    (h : Course net w legs v) :
    (∃ sent, v.2 = sent ++ w.2 ∧ ∀ e ∈ sent, ∀ d ∈ e.request.body.devices, d = .str w.1.host.device.write) ∧
    (∃ a b c d e, Uuid.Hyphenated w.1.host.device.write a b c d e) ∧
    match w.1.host.keptDevice with
    | some id => w.1.host.device = id ∧ v.1.host.issued = w.1.host.issued
    | none => w.1.host.device = w.1.host.deviceIds w.1.host.issued ∧ v.1.host.issued ≤ w.1.host.issued + 1 := by
  have hB := Bond.device_lawful w.1.host
  have hq : ∀ r r', (Bond.device w.1.host).sends r r' → r = r' := fun _ _ ↦ And.left
  have hb : net.Blind ((Bond.device w.1.host).workspaces.logged w.2 w.2) :=
    Network.blind_of_eq (fun _ _ hw ↦ Bond.Workspaces.eq hw fun _ _ _ ↦ id) hq net w.2
  -- The course is compared with itself: that its requests match says which device they name.
  have hw : (Bond.device w.1.host).Workspaces w.1 w.1 := .refl hB (.refl hr) fun _ ↦ trivial
  obtain ⟨v', -, hv, sent, sent', hsent, -, hf⟩ := h.matches (hb.matches hs hB.lasting) hB.lasting
    (fun e he ↦ hB.bears (Bond.device_suits (hd e he))) ⟨hw, [], [], rfl, rfl, .nil⟩
  obtain rfl := Exchange.eq_of_forall₂ hf hq
  refine ⟨⟨sent, hsent, fun e he ↦ (List.forall₂_same.mp hf e he).request.2⟩, ?_, ?_⟩
  · obtain ⟨a, b, c, d, e, hw, -⟩ := w.1.host.device.write_hyphenated
    exact ⟨a, b, c, d, e, hw⟩
  · have hi : w.1.host.Identifies v.1.host := hv.hosts.fit.identifies
    cases hk : w.1.host.keptDevice with
    | some id =>
      refine ⟨by rw [Host.device, hk, Option.getD_some], ?_⟩
      cases hi with
      | before _ hn => exact hn
      | made _ h₀k => cases hk.symm.trans h₀k
    | none =>
      refine ⟨by rw [Host.device, hk, Option.getD_none], ?_⟩
      cases hi with
      | before _ hn => exact hn ▸ Nat.le_succ _
      | made _ _ hn => exact Nat.le_of_eq hn

/-- Over an empty store a login makes an identifier, and a call for new tokens names it again. -/
theorem Course.one_device_of_login_and_renewal :
    ∃ (net : Network World) (w v : World) (legs : List Leg), net.Serves .sparing ∧
      w.1.host.durable.Reliable ∧ (∀ e ∈ legs, e.Names w.1.host.device) ∧ Course net w legs v ∧
      w.1.host.keptDevice = none ∧ v.1.host.issued = w.1.host.issued + 1 ∧
      ((v.2.flatMap fun e ↦ e.request.body.devices).filterMap Json.str?).length = 2 ∧
      (∃ sent, v.2 = sent ++ w.2 ∧ ∀ e ∈ sent, ∀ d ∈ e.request.body.devices, d = .str w.1.host.device.write) := by
  let host : Host := ⟨.empty .memory, ⟨0⟩, fun _ ↦ ⟨List.replicate 32 0, rfl⟩, 0⟩
  let w : World := (.initial host (.ofBase "http://h") "host", [])
  let tokens := "\x7b\"access_token\":\"a1\",\"refreshToken\":\"r1\"\x7d".toUTF8.data.toList
  let user := "\x7b\"success\":true,\"data\":\x7b\"id\":\"u1\"\x7d\x7d".toUTF8.data.toList
  -- After the login, the next request is refused once.
  let backend : Backend := fun tr r ↦
    if tr.length = 2 then some ⟨unauthorized, []⟩ else if r.auth = none then some ⟨200, tokens⟩ else some ⟨200, user⟩
  let net : Network World := backend.network fun _ _ ↦ some 5
  let login := Operation.login "ada@example.com" "s3cret" true
  let request := Operation.request "GET" "http://h/x" .empty
  let w₁ := (Machine.run net 9 login.task.logged w).2.state
  let v := (Machine.run net 9 request.task.logged w₁).2.state
  have hn : net.Serves .sparing := backend.network_serves .sparing _
  obtain ⟨hl, hs, hi, ht⟩ : (Machine.run net 9 login.task.logged w).1.bind Except.toOption = some true ∧
      ((Machine.run net 9 request.task.logged w₁).1.bind Except.toOption).isSome ∧ v.1.host.issued = 1 ∧
      ((v.2.flatMap fun e ↦ e.request.body.devices).filterMap Json.str?).length = 2 := by
    decide +kernel
  obtain ⟨answer, hs⟩ := Option.isSome_iff_exists.mp hs
  have h₁ : WorkspaceM.Runs net login.task w (.ok true) w₁ := .of_toOption hl
  have h₂ : WorkspaceM.Runs net request.task w₁ (.ok answer) v := .of_toOption hs
  have hc : Course net w [.ran login (.ok true), .ran request (.ok answer)] v := .ran h₁ (.ran h₂ (.nil v))
  have hd : ∀ e ∈ [Leg.ran login (.ok true), .ran request (.ok answer)], e.Names w.1.host.device := by
    intro e he
    rcases List.mem_cons.mp he with rfl | he
    · exact trivial
    · cases List.mem_singleton.mp he
      exact nofun
  have hr : w.1.host.durable.Reliable := ⟨by decide, fun _ _ _ ↦ rfl⟩
  exact ⟨net, w, v, _, hn, hr, hd, hc, by decide, hi, ht, (hc.one_device hn hr hd).1⟩

end Backoffice
