import Backoffice.Proofs.Client.Course

namespace Backoffice

open Web (Request)
open Time (Instant)

/-- A call for new tokens, under the routes of a client. -/
structure Web.Request.IsRefresh (routes : Routes) (device token : String) (r : Request) : Prop where
  method : r.method = "POST"
  url : Url.parse? (routes.base ++ "/admin/refreshToken") = some r.url
  auth : r.auth = none
  body : r.body = .json (.obj [("identifier", .str device), ("refreshToken", .str token)])

theorem Call.isRefresh_renewal {routes : Routes} {device : DeviceId} {token : String} {r : Request}
    (hr : (renewal routes device token).request? = some r) : r.IsRefresh routes device.write token := by
  obtain ⟨url, hu, rfl⟩ := Call.request?_eq_some hr
  exact ⟨rfl, hu, rfl, rfl⟩

/-- Requests that are the same but for the refresh token in a call for new tokens. The clients that send them
have configurations of which `known` holds. -/
def Web.Request.SameButToken (known : Config → Prop) (r r' : Request) : Prop :=
  r = r' ∨ ∃ config device token token', known config ∧
    r.IsRefresh (.ofBase config.apiUrl) device token ∧ r'.IsRefresh (.ofBase config.apiUrl) device token'

/-- Profiles that differ in nothing but which refresh token is stored. -/
def Kinship.refreshToken : Kinship where
  values name v v' := v = v' ∨ name = Profile.refreshCookie ∧ v ≠ "" ∧ v' ≠ ""
  fit _ := True
  devices _ := True

theorem Kinship.refreshToken_lawful : Kinship.refreshToken.Lawful := by
  refine .of_values (fun _ _ ↦ .inl rfl) ?empty ?access
  case empty =>
    rintro name v v' (rfl | ⟨-, hv, hv'⟩)
    · exact .rfl
    · exact iff_of_false hv hv'
  case access => exact fun h ↦ h.resolve_right fun h ↦ absurd h.1 (by decide)

/-- Clients over such profiles, whatever they are asked for. -/
def Bond.refreshToken (known : Config → Prop) : Bond where
  kin := .refreshToken
  known := known
  allows _ _ _ := True
  sends := Request.SameButToken known

theorem Bond.refreshToken_lawful (known : Config → Prop) : (Bond.refreshToken known).Lawful where
  kin := Kinship.refreshToken_lawful
  plain := .free
  requests _ _ := .inl rfl
  logins _ _ := trivial
  renewals {config device token token' _ _} hk _ _ hr hr' :=
    .inr ⟨config, device.write, token, token', hk, Call.isRefresh_renewal hr, Call.isRefresh_renewal hr'⟩

def Host.keeping (token : String) (t : Instant) (h : Host) : Host :=
  let entries := h.durable.entries.put (Profile.cookieKey Profile.refreshCookie) (StoredCookie.write ⟨token, t⟩)
  { h with durable := { h.durable with entries } }

theorem Workspace.initial_keeping {known : Config → Prop} {token token' : String} {t : Instant} (hv : token ≠ "")
    (hv' : token' ≠ "") (ht : t.inRange = true) (h : Host) {config : Config} (hk : known config)
    (hostName : String) :
    (Bond.refreshToken known).Workspaces (.initial (h.keeping token t) config hostName)
      (.initial (h.keeping token' t) config hostName) := by
  have hx : Profile.KinTexts Kinship.refreshToken.values (Profile.cookieKey Profile.refreshCookie)
      (StoredCookie.write ⟨token, t⟩) (StoredCookie.write ⟨token', t⟩) := by
    by_cases he : token = token'
    · rw [he]
      exact .refl _
    · exact .cookie rfl (StoredCookie.read?_write (c := ⟨token, t⟩) ht)
        (StoredCookie.read?_write (c := ⟨token', t⟩) ht) rfl (.inr ⟨rfl, hv, hv'⟩) he
  refine ⟨⟨⟨⟨Table.Kin.put ?_ hx, rfl⟩, rfl⟩, trivial, trivial⟩, fun _ ↦ .nil, fun _ ↦ rfl, fun _ ↦ hk, rfl⟩
  exact .refl (fun _ ↦ .refl) _

/-- A refresh token is used for refreshing only. Take two workspaces over profiles that differ in nothing but
the refresh token that is stored, and a backend that makes no difference between refresh tokens. Whatever
happens in the one happens in the other, each operation with the same result; the requests are the same but for
the token in the calls for new ones, and again the workspaces differ in nothing else. These calls go by `POST`
to the refresh route of a client, `known` being the configurations of the clients that there are and of those
that are started. Only a user's own look at what a profile holds may show the token. -/
theorem Course.same_but_refresh_token {k : Clock} {net : Network World} {w w' v : World} {legs : List Leg}
    {known : Config → Prop} (hs : net.Serves k)
    (hb : net.Blind ((Bond.refreshToken known).workspaces.logged w.2 w'.2))
    (hw : (Bond.refreshToken known).Workspaces w.1 w'.1) (hd : ∀ e ∈ legs, (Bond.refreshToken known).Suits e)
    (h : Course net w legs v) :
    ∃ v', Course net w' legs v' ∧ (Bond.refreshToken known).Workspaces v.1 v'.1 ∧
      ∃ sent sent', v.2 = sent ++ w.2 ∧ v'.2 = sent' ++ w'.2 ∧
        List.Forall₂ (Exchange.Matches (Request.SameButToken known)) sent sent' := by
  have hB := Bond.refreshToken_lawful known
  exact h.matches (hb.matches hs hB.lasting) hB.lasting (fun e he ↦ hB.bears (hd e he))
    ⟨hw, [], [], rfl, rfl, .nil⟩

/-- Two clients start over the refresh tokens `r1` and `r2`, with which they get the token `a2` for `a1`. -/
theorem Course.same_but_refresh_token_of_renewal :
    let known (c : Config) : Prop := c = .ofBase "http://h"
    ∃ (net : Network World) (w w' v v' : World) (legs : List Leg),
      net.Serves .sparing ∧ net.Blind ((Bond.refreshToken known).workspaces.logged w.2 w'.2) ∧
      (Bond.refreshToken known).Workspaces w.1 w'.1 ∧ (∀ e ∈ legs, (Bond.refreshToken known).Suits e) ∧
      Course net w legs v ∧ Course net w' legs v' ∧ v.2.length = 3 ∧
      (Profile.credential (v.1.console v.1.current).profile).1 = some ⟨"a2", some "r1", .days 30⟩ ∧
      (Bond.refreshToken known).Workspaces v.1 v'.1 ∧
      ∃ sent sent', v.2 = sent ++ w.2 ∧ v'.2 = sent' ++ w'.2 ∧
        List.Forall₂ (Exchange.Matches (Request.SameButToken known)) sent sent' := by
  intro known
  let empty : Host := ⟨.empty .memory, ⟨0⟩, fun _ ↦ ⟨List.replicate 32 0, rfl⟩, 0⟩
  let host := (Profile.setCredential ⟨"a1", none⟩ true none (.blank empty)).2.host
  let config := Config.ofBase "http://h"
  let f (r : Request) : Web.Outcome :=
    if r.auth = some (bearer "a1") then some ⟨unauthorized, []⟩
    else if r.auth = none then some ⟨200, "\x7b\"access_token\":\"a2\"\x7d".toUTF8.data.toList⟩
    else some ⟨200, "\x7b\"success\":true,\"data\":\x7b\"id\":\"u1\"\x7d\x7d".toUTF8.data.toList⟩
  let net : Network World := (Backend.ofFunction f).network fun _ _ ↦ some 5
  let w (token : String) : World := (.initial (host.keeping token ⟨1000⟩) config "host", [])
  let start := (Workspace.start config "host").run
  let w₀ : World := (.initial (w "r1").1.host config "host", (w "r1").2)
  let v := (Machine.run net 9 start.logged w₀).2.state
  obtain ⟨hs, hl, hp⟩ : ((Machine.run net 9 start.logged w₀).1.bind Except.toOption).isSome ∧ v.2.length = 3 ∧
      (Profile.credential (v.1.console v.1.current).profile).1 = some ⟨"a2", some "r1", .days 30⟩ := by
    decide +kernel
  obtain ⟨status, hs⟩ := Option.isSome_iff_exists.mp hs
  have h₁ : WorkspaceM.Runs net start w₀ (.ok status) v := .of_toOption hs
  have hn : net.Serves .sparing := (Backend.ofFunction f).network_serves .sparing _
  have hb : net.Blind ((Bond.refreshToken known).workspaces.logged (w "r1").2 (w "r2").2) := by
    refine Backend.network_blind ?_ (fun w w' hw ↦ ?_) 5
    · rintro r r' (rfl | ⟨_, _, _, _, -, hr, hr'⟩)
      · rfl
      · simp only [f, hr.auth, hr'.auth]
    · rw [hw.1.hosts.kin.only_durable]
  have hk : known config := rfl
  have hw : (Bond.refreshToken known).Workspaces (w "r1").1 (w "r2").1 :=
    Workspace.initial_keeping (by decide) (by decide) (by decide) host hk "host"
  have hd : ∀ e ∈ [Leg.opened config "host" (.ok status)], (Bond.refreshToken known).Suits e := by
    intro e he
    cases List.mem_singleton.mp he
    exact hk
  have hc : Course net (w "r1") [.opened config "host" (.ok status)] v := .opened h₁ (.nil v)
  obtain ⟨v', hc', hv, hsent⟩ := hc.same_but_refresh_token hn hb hw hd
  exact ⟨net, w "r1", w "r2", v, v', _, hn, hb, hw, hd, hc, hc', hl, hp, hv, hsent⟩

end Backoffice
