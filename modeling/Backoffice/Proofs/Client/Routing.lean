import Backoffice.Client.Users
import Backoffice.Proofs.Task.Safety
import Backoffice.Proofs.Web.Addresses

namespace Backoffice

open Backoffice.Task (Steady)
open Web (Body Request Url)
open Web.Url (Plain Segment)

inductive Route where
  | login | refreshToken | me | users | addUser | editUser | deleteUser | countries | activeClients | roles
  | user (id : Id .user)
  | client (id : Id .client)
  | businessUnits (id : Id .client)
  deriving DecidableEq, Repr

namespace Route

def address (r : Routes) : Route → String
  | login => r.login
  | refreshToken => r.refreshToken
  | me => r.me
  | users => r.users
  | addUser => r.addUser
  | editUser => r.editUser
  | deleteUser => r.deleteUser
  | countries => r.countries
  | activeClients => r.activeClients
  | roles => r.roles
  | user id => r.user id
  | client id => r.client id
  | businessUnits id => r.businessUnits id

def carriesId : Route → Bool
  | user _ | client _ | businessUnits _ => true
  | _ => false

def asId : Route → Route
  | login => user ⟨"login"⟩
  | refreshToken => user ⟨"refreshToken"⟩
  | me => user ⟨"me"⟩
  | users => user ⟨"list"⟩
  | addUser => user ⟨"add"⟩
  | editUser => user ⟨"edit"⟩
  | deleteUser => user ⟨"delete"⟩
  | activeClients => client ⟨"getActive"⟩
  | a => a

inductive Stem where
  | admin | client | business | countries | roles
  deriving DecidableEq, Repr

namespace Stem

def text : Stem → String
  | admin => "/admin/"
  | client => "/client/"
  | business => "/business/getByClientForDropdown/"
  | countries => "/location/countries/list"
  | roles => "/role/list?page=1"

def initial : Stem → Char
  | admin => 'a'
  | client => 'c'
  | business => 'b'
  | countries => 'l'
  | roles => 'r'

theorem exists_toList_text (s : Stem) : ∃ cs, s.text.toList = '/' :: s.initial :: cs := by
  cases s <;> exact ⟨_, rfl⟩

theorem initial_inj {s t : Stem} (h : s.initial = t.initial) : s = t := by
  revert h
  cases s <;> cases t <;> decide

theorem text_append_inj {s t : Stem} {u v : String} : s.text ++ u = t.text ++ v ↔ s = t ∧ u = v := by
  refine ⟨fun h ↦ ?_, fun ⟨hs, hu⟩ ↦ by rw [hs, hu]⟩
  obtain ⟨cs, hs⟩ := s.exists_toList_text
  obtain ⟨ds, ht⟩ := t.exists_toList_text
  have hlist := congrArg String.toList h
  rw [String.toList_append, String.toList_append] at hlist
  have hinitial := hlist
  rw [hs, ht] at hinitial
  obtain rfl := initial_inj (List.cons.inj (List.cons.inj hinitial).2).1
  exact ⟨rfl, String.toList_injective (List.append_cancel_left hlist)⟩

end Stem

def stem : Route → Stem
  | client _ | activeClients => .client
  | businessUnits _ => .business
  | countries => .countries
  | roles => .roles
  | _ => .admin

def tail : Route → String
  | login => "login"
  | refreshToken => "refreshToken"
  | me => "me"
  | users => "list"
  | addUser => "add"
  | editUser => "edit"
  | deleteUser => "delete"
  | activeClients => "getActive"
  | user id => id.text
  | client id | businessUnits id => id.text
  | countries | roles => ""

variable {r : Routes} {a b : Route}

theorem address_eq (r : Routes) (a : Route) : a.address r = r.base ++ (a.stem.text ++ a.tail) := by
  cases a with
  | user id => exact String.append_assoc ..
  | client id => exact String.append_assoc ..
  | businessUnits id => exact String.append_assoc ..
  | _ => exact congrArg (r.base ++ ·) (by decide)

theorem stem_asId (a : Route) : a.asId.stem = a.stem := by cases a <;> rfl

theorem tail_asId (a : Route) : a.asId.tail = a.tail := by cases a <;> rfl

def ofStem : Stem → String → Route
  | .admin, s => user ⟨s⟩
  | .client, s => client ⟨s⟩
  | .business, s => businessUnits ⟨s⟩
  | .countries, _ => countries
  | .roles, _ => roles

theorem asId_eq_ofStem (a : Route) : a.asId = ofStem a.stem a.tail := by cases a <;> rfl

theorem asId_of_carriesId (h : a.carriesId) : a.asId = a := by
  cases a <;> first | rfl | cases h

theorem address_eq_iff : a.address r = b.address r ↔ a.asId = b.asId := by
  have hcancel {u v : String} : r.base ++ u = r.base ++ v ↔ u = v := by
    rw [← String.toList_inj, String.toList_append, String.toList_append, List.append_cancel_left_eq, String.toList_inj]
  rw [address_eq, address_eq, hcancel, Stem.text_append_inj]
  constructor
  · rintro ⟨hs, ht⟩
    rw [asId_eq_ofStem, asId_eq_ofStem, hs, ht]
  · intro h
    rw [← stem_asId a, ← tail_asId a, h, stem_asId, tail_asId]
    exact ⟨rfl, rfl⟩

/-- The identifier that a route carries, if it carries one, is a segment of a path as it stands. -/
def PlainId (a : Route) : Prop := a.carriesId → Segment a.tail.toList

theorem plain_of_list {p : String} (h : p.toList.head? = some '/' ∧ p.toList.all (0x20 < ·.toNat) ∧
    '\\' ∉ p.toList ∧ '#' ∉ p.toList ∧ '%' ∉ p.toList ∧
    ∀ s ∈ Web.splitOn '/' (Url.splitTail p.toList).1.tail, ¬ Url.isDoubleDot s ∧ ¬ Url.isSingleDot s) :
    Plain p.toList := by
  obtain ⟨hslash, hvisible, hbackslash, hfragment, hpercent, hdots⟩ := h
  exact ⟨hslash, fun c hc ↦ of_decide_eq_true (List.all_eq_true.mp hvisible c hc), hbackslash, hfragment, hpercent, hdots⟩

theorem plain_path (h : a.PlainId) : Plain (a.stem.text ++ a.tail).toList := by
  have hbehind (front : String) (hf : Plain front.toList) (hq : '?' ∉ front.toList) (ht : Segment a.tail.toList) :
      Plain (front ++ "/" ++ a.tail).toList := by
    rw [String.toList_append, String.toList_append, List.append_assoc]
    exact hf.append_segment hq ht
  have hadmin := hbehind "/admin" (plain_of_list (by decide)) (by decide)
  have hclient := hbehind "/client" (plain_of_list (by decide)) (by decide)
  have hbusiness := hbehind "/business/getByClientForDropdown" (plain_of_list (by decide)) (by decide)
  cases a with
  | user id => exact hadmin (h rfl)
  | client id => exact hclient (h rfl)
  | businessUnits id => exact hbusiness (h rfl)
  | activeClients => exact hclient (.of_letters (by decide))
  | countries => exact plain_of_list (by decide)
  | roles => exact plain_of_list (by decide)
  | _ => exact hadmin (.of_letters (by decide))

/-- The request to a route with a plain identifier tells the route, over a base of the web. -/
theorem asId_eq_of_parse? (hbase : (Url.parse? r.base).isSome) (hf : '#' ∉ r.base.toList) (ha : a.PlainId)
    (hb : b.PlainId) {u : Url} (hu : u.isHttp) (hau : Url.parse? (a.address r) = some u)
    (hbu : Url.parse? (b.address r) = some u) : a.asId = b.asId := by
  rw [address_eq, ← String.ofList_toList (s := a.stem.text ++ a.tail)] at hau
  rw [address_eq, ← String.ofList_toList (s := b.stem.text ++ b.tail)] at hbu
  have hpath := Url.parse?_append_inj hbase hf (plain_path ha) (plain_path hb) hu hau hbu
  rw [← address_eq_iff (r := r), address_eq, address_eq, String.toList_injective hpath]

end Route

namespace Console

attribute [local irreducible] Routes.ofBase

variable {r : Routes} {method url : String} {α β : Type}

/-- What a call may send: its own requests, and those for new tokens. -/
def Calls (r : Routes) (method url : String) (q : Request) : Prop :=
  (q.method = method ∧ Url.parse? url = some q.url) ∨ (q.method = "POST" ∧ Url.parse? r.refreshToken = some q.url)

def calling (r : Routes) (method url : String) : Terms Console where
  holds c := c.context.routes = r
  rely _ _ := True
  sends := Calls r method url
  refl _ := trivial
  trans _ _ := trivial

abbrev KeepsTo (r : Routes) (method url : String) (t : ConsoleM α) : Prop := Steady (calling r method url) t

theorem KeepsTo.sent {t : ConsoleM α} (h : KeepsTo r method url t) {c : Console} (hc : c.context.routes = r)
    (backend : Backend) (tr : List Exchange) :
    ∃ later, (t.run backend c tr).trace = later ++ tr ∧ ∀ e ∈ later, Calls r method url e.request :=
  (h.safe c hc).sent backend tr

theorem onProfile_keepsTo (act : StateM Profile α) : KeepsTo r method url (onProfile act) := ⟨fun _ hc ↦ hc⟩

theorem modify_keepsTo {f : Context → Context} (hf : ∀ c, (f c).routes = c.routes) :
    KeepsTo r method url (modify f) :=
  ⟨fun c hc ↦ (hf c.context).trans hc⟩

theorem modifyDirectory_keepsTo (f : Directory → Directory) : KeepsTo r method url (modifyDirectory f) :=
  modify_keepsTo fun _ ↦ rfl

theorem stored_keepsTo (act : ProfileM α) : KeepsTo r method url (stored act).run := by
  refine (onProfile_keepsTo act.run).lift.except_bind fun x ↦ ?_
  cases x with
  | ok a => exact .done _
  | error e => exact .done _

theorem read_routes_keepsTo {f : Routes → Action α} (h : KeepsTo r method url (f r).run) :
    KeepsTo r method url (sure (read Context.routes) >>= f).run := by
  refine ⟨fun c hc ↦ ?_⟩
  have hread : (read Context.routes).Safe (calling r method url)
      (fun routes c ↦ routes = r ∧ c.context.routes = r) c := ⟨hc, hc⟩
  exact hread.lift_bind fun routes c hr ↦ hr.1 ▸ h.safe c hr.2

theorem sendOnce_keepsTo {method' url' : String} {token : Option String} {body : Body}
    (h : ∀ q, q.method = method' → Url.parse? url' = some q.url → Calls r method url q) :
    KeepsTo r method url (sendOnce method' url' token body).run := by
  unfold sendOnce
  cases hq : buildRequest method' url' token body with
  | none => exact .done _
  | some q =>
    have hcall : Calls r method url q := by
      unfold buildRequest at hq
      split at hq
      · cases hq
      · next u hu =>
        split at hq
        · cases hq
          exact h _ rfl hu
        · cases hq
    have hsend : KeepsTo r method url (Task.request q) := ⟨fun c hc ↦ ⟨hc, hcall, fun _ _ ht _ ↦ ht⟩⟩
    refine hsend.lift.except_bind fun o ↦ ?_
    cases o with
    | none => exact .done _
    | some answer => exact .done _

theorem accessToken_keepsTo : KeepsTo r method url accessToken := (onProfile_keepsTo _).bind fun _ ↦ .done _

theorem discardCredential_keepsTo : KeepsTo r method url discardCredential :=
  (onProfile_keepsTo _).bind fun _ ↦ .done _

theorem refresh_keepsTo : KeepsTo r method url refresh.run := by
  refine (onProfile_keepsTo _).lift.except_bind fun credential ↦ ?_
  split
  · exact .done _
  · refine (stored_keepsTo _).except_bind fun device ↦ read_routes_keepsTo ?_
    refine (sendOnce_keepsTo fun q hm hu ↦ .inr ⟨hm, hu⟩).lift.except_bind fun answer ↦ ?_
    split
    · exact .done _
    · split
      · exact .done _
      · exact (stored_keepsTo _).except_bind fun _ ↦ .done _

theorem renew_keepsTo : KeepsTo r method url freshToken.renew.run := by
  refine refresh_keepsTo.lift.except_bind fun x ↦ ?_
  split
  · exact .done _
  · have hcount : KeepsTo r method url (modify fun c ↦ { c with signOuts := c.signOuts + 1 }) :=
      modify_keepsTo fun _ ↦ rfl
    exact discardCredential_keepsTo.lift.except_bind fun _ ↦ hcount.lift.except_bind fun _ ↦ .done _

theorem freshToken_keepsTo (refused : Option String) : KeepsTo r method url (freshToken refused).run := by
  refine accessToken_keepsTo.lift.except_bind fun current ↦ ?_
  split
  · split
    · exact .done _
    · exact renew_keepsTo
  · exact renew_keepsTo

/-- A request is sent to its address, with one token or another, and else only new tokens are asked for. -/
theorem request_keepsTo (body : Body) : KeepsTo r method url (request method url body).run := by
  have hown (token : Option String) : KeepsTo r method url (sendOnce method url token body).run :=
    sendOnce_keepsTo fun q hm hu ↦ .inl ⟨hm, hu⟩
  refine accessToken_keepsTo.lift.except_bind fun token ↦ ?_
  refine (hown token).except_bind fun first ↦ ?_
  split
  · exact .done _
  · refine (Steady.acquire _).lift.except_bind fun _ ↦ ?_
    refine (freshToken_keepsTo token).lift.except_bind fun fresh ↦ ?_
    refine (Steady.release _).lift.except_bind fun _ ↦ ?_
    cases fresh with
    | ok t => exact hown (some t)
    | error e => exact .done _

theorem fetchVia_keepsTo (route : Routes → String) (dec : Decoder α) (judge : Envelope α → Except ClientError β) :
    KeepsTo r "GET" (route r) (fetchVia route dec judge).run := by
  refine read_routes_keepsTo (Steady.except_bind ?_ fun envelope ↦ ?_)
  · refine (request_keepsTo .empty).except_bind fun answer ↦ ?_
    cases envelopeOf dec answer with
    | ok v => exact .done _
    | error e => exact .done _
  · cases judge envelope with
    | ok b => exact .done _
    | error e => exact .done _

theorem fetchClient_keepsTo (id : Id .client) : KeepsTo r "GET" (r.client id) (fetchClient id).run :=
  fetchVia_keepsTo (·.client id) _ _

theorem fetchUser_keepsTo (id : Id .user) : KeepsTo r "GET" (r.user id) (fetchUser id).run := by
  refine (modifyDirectory_keepsTo _).lift.except_bind fun _ ↦ ?_
  refine (fetchVia_keepsTo (·.user id) _ _).lift.except_bind fun outcome ↦ ?_
  cases outcome with
  | ok u => exact (modifyDirectory_keepsTo _).lift.except_bind fun _ ↦ .done _
  | error e => exact (modifyDirectory_keepsTo _).lift.except_bind fun _ ↦ .done _

end Console

namespace Route

/-- Identifiers are put into addresses as they are. So the address of a route with an identifier tells the route and
the identifier, but for the words that fixed routes have in its place, and it tells these from all others too. Over a
base of the web without a fragment, what is requested tells as much, if the identifiers are plain segments of a path.
And who fetches a user or a client by an identifier sends requests to that address only, and for new tokens. -/
theorem addresses_apart (r : Routes) :
    (∀ a b : Route, a.carriesId → b.carriesId → (a.address r = b.address r ↔ a = b)) ∧
    (∀ a f : Route, a.carriesId → ¬ f.carriesId → (a.address r = f.address r ↔ f.asId = a)) ∧
    ((Url.parse? r.base).isSome → '#' ∉ r.base.toList → ∀ a b : Route, a.PlainId → b.PlainId → ∀ u : Url, u.isHttp →
      Url.parse? (a.address r) = some u → Url.parse? (b.address r) = some u → a.address r = b.address r) ∧
    ∀ (backend : Backend) (c : Console) (tr : List Exchange),
      (∀ id, ∃ later, ((Console.fetchUser id).run.run backend c tr).trace = later ++ tr ∧
        ∀ e ∈ later, Console.Calls c.context.routes "GET" (c.context.routes.user id) e.request) ∧
      ∀ id, ∃ later, ((Console.fetchClient id).run.run backend c tr).trace = later ++ tr ∧
        ∀ e ∈ later, Console.Calls c.context.routes "GET" (c.context.routes.client id) e.request := by
  refine ⟨fun a b ha hb ↦ ?_, fun a f ha _ ↦ ?_, fun hbase hf a b ha hb u hu hau hbu ↦ ?_, fun backend c tr ↦ ?_⟩
  · rw [address_eq_iff, asId_of_carriesId ha, asId_of_carriesId hb]
  · rw [address_eq_iff, asId_of_carriesId ha, eq_comm]
  · exact address_eq_iff.mpr (asId_eq_of_parse? hbase hf ha hb hu hau hbu)
  · exact ⟨fun id ↦ (Console.fetchUser_keepsTo id).sent rfl backend tr,
      fun id ↦ (Console.fetchClient_keepsTo id).sent rfl backend tr⟩

/-- A user with an identifier of letters has another address than a client with that identifier, and is requested
elsewhere than the list of users. -/
theorem addresses_apart_of_letters :
    let r : Routes := ⟨"http://localhost:3000/api"⟩
    r.user ⟨"ada"⟩ ≠ r.client ⟨"ada"⟩ ∧ r.user ⟨"ada"⟩ ≠ r.users ∧
      ∃ u : Url, u.isHttp ∧ Url.parse? (r.user ⟨"ada"⟩) = some u ∧ Url.parse? r.users ≠ some u := by
  intro r
  obtain ⟨hids, hfixed, hrequest, -⟩ := addresses_apart r
  have hclient : (user ⟨"ada"⟩).address r ≠ (client ⟨"ada"⟩).address r := fun h ↦
    absurd ((hids _ _ rfl rfl).mp h) (by decide)
  have husers : (user ⟨"ada"⟩).address r ≠ users.address r := fun h ↦
    absurd ((hfixed _ users rfl (by decide)).mp h) (by decide)
  let u : Url := ⟨"http", some "localhost", some 3000, "/api/admin/ada", none⟩
  have hu : Url.parse? (r.user ⟨"ada"⟩) = some u := by decide +kernel
  have hbase : (Url.parse? r.base).isSome := by decide +kernel
  have hplain : (user ⟨"ada"⟩).PlainId := fun _ ↦ .of_letters (by decide)
  have hlist : users.PlainId := fun h ↦ absurd h (by decide)
  exact ⟨hclient, husers, u, rfl, hu, fun h ↦ husers (hrequest hbase (by decide) _ _ hplain hlist u rfl hu h)⟩

/-- A user and a client have identifiers, and with them the addresses of fixed routes; and with dots in an identifier
another address than that of a fixed route is read like it. -/
theorem addresses_not_apart :
    let r : Routes := ⟨"http://localhost:3000/api"⟩
    (∃ id : Id .user, ¬ id.isBlank ∧ r.user id = r.me) ∧
    (∃ id : Id .client, ¬ id.isBlank ∧ r.client id = r.activeClients) ∧
    ∃ id : Id .user, ¬ id.isBlank ∧ r.user id ≠ r.users ∧ Url.parse? (r.user id) = Url.parse? r.users :=
  ⟨⟨⟨"me"⟩, by decide, by decide⟩, ⟨⟨"getActive"⟩, by decide, by decide⟩,
    ⟨"x/../list"⟩, by decide, by decide, by decide +kernel⟩

end Route

end Backoffice
