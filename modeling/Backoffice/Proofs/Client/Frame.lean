import Backoffice.Client.ReferenceData
import Backoffice.Proofs.Task.Frame

namespace Backoffice.Console

open Web (Request Response Body)

variable {α β π : Type} {part : Context → π}

abbrev Leaves (part : Context → π) (t : ConsoleM α) : Prop :=
  t.Spares (fun c ↦ part c.context) (· = Gate.refresh)

theorem onProfile_leaves (act : StateM Profile α) : Leaves part (onProfile act) := .state fun _ ↦ rfl

theorem read_leaves (f : Context → α) : Leaves part (read f) := ⟨fun _ ↦ trivial⟩

theorem modify_leaves {f : Context → Context} (h : ∀ c, part (f c) = part c) : Leaves part (modify f) :=
  ⟨fun s ↦ ⟨h s.context, trivial⟩⟩

theorem acquire_leaves : Leaves part (Task.acquire Gate.refresh) := .acquire rfl

theorem release_leaves : Leaves part (Task.release Gate.refresh) := .release rfl

theorem sendOnce_leaves (method url : String) (token : Option String) (body : Body) :
    Leaves part (sendOnce method url token body).run := by
  unfold sendOnce
  cases buildRequest method url token body with
  | none => exact .done _
  | some r =>
    refine (Task.Spares.request r).lift.except_bind fun o ↦ ?_
    cases o with
    | none => exact .done _
    | some answer => exact .done _

theorem stored_leaves (act : ProfileM α) : Leaves part (stored act).run := by
  refine (onProfile_leaves act.run).lift.except_bind fun r ↦ ?_
  cases r with
  | ok a => exact .done _
  | error e => exact .done _

theorem accessToken_leaves : Leaves part accessToken := (onProfile_leaves _).bind fun _ ↦ .done _

theorem discardCredential_leaves : Leaves part discardCredential :=
  (onProfile_leaves _).bind fun _ ↦ .done _

theorem refresh_leaves : Leaves part refresh.run := by
  refine (onProfile_leaves _).lift.except_bind fun credential ↦ ?_
  split
  · exact .done _
  · refine (stored_leaves _).except_bind fun device ↦ ?_
    refine (read_leaves _).lift.except_bind fun routes ↦ ?_
    refine (sendOnce_leaves _ _ _ _).lift.except_bind fun answer ↦ ?_
    split
    · exact .done _
    · split
      · exact .done _
      · exact (stored_leaves _).except_bind fun _ ↦ .done _

def OverlooksSignOuts (part : Context → π) : Prop := ∀ c n, part { c with signOuts := n } = part c

variable (hp : OverlooksSignOuts part)
include hp

theorem renew_leaves : Leaves part freshToken.renew.run := by
  refine refresh_leaves.lift.except_bind fun r ↦ ?_
  split
  · exact .done _
  · refine discardCredential_leaves.lift.except_bind fun _ ↦ ?_
    exact (modify_leaves fun c ↦ hp c _).lift.except_bind fun _ ↦ .done _

theorem freshToken_leaves (refused : Option String) : Leaves part (freshToken refused).run := by
  refine accessToken_leaves.lift.except_bind fun current ↦ ?_
  split
  · split
    · exact .done _
    · exact renew_leaves hp
  · exact renew_leaves hp

theorem request_leaves (method url : String) (body : Body) : Leaves part (request method url body).run := by
  refine accessToken_leaves.lift.except_bind fun token ↦ ?_
  refine (sendOnce_leaves _ _ _ _).except_bind fun first ↦ ?_
  split
  · exact .done _
  · refine acquire_leaves.lift.except_bind fun _ ↦ ?_
    refine (freshToken_leaves hp token).lift.except_bind fun fresh ↦ ?_
    refine release_leaves.lift.except_bind fun _ ↦ ?_
    cases fresh with
    | ok t => exact sendOnce_leaves _ _ _ _
    | error e => exact .done _

theorem sendEnvelope_leaves (dec : Decoder α) (method url : String) (body : Body) :
    Leaves part (sendEnvelope dec method url body).run := by
  refine (request_leaves hp method url body).except_bind fun answer ↦ ?_
  cases envelopeOf dec answer with
  | ok v => exact .done _
  | error e => exact .done _

theorem fetchVia_leaves (route : Routes → String) (dec : Decoder α)
    (judge : Envelope α → Except ClientError β) : Leaves part (fetchVia route dec judge).run := by
  refine (read_leaves _).lift.except_bind fun routes ↦ ?_
  refine (sendEnvelope_leaves hp dec "GET" _ .empty).except_bind fun v ↦ ?_
  cases judge v with
  | ok b => exact .done _
  | error e => exact .done _

omit hp

abbrev SendsFirst (t : Action α) : Prop := t.run.Prompt fun x ↦ ∃ e, x = .error e

theorem SendsFirst.bind {t : Action α} {f : α → Action β} (h : SendsFirst t) : SendsFirst (t >>= f) := by
  refine h.except_bind (fun a ha ↦ ?_) fun e _ ↦ ⟨e, rfl⟩
  obtain ⟨e, he⟩ := ha
  cases he

theorem sendOnce_first (method url : String) (token : Option String) (body : Body) :
    SendsFirst (sendOnce method url token body) := by
  unfold sendOnce
  cases buildRequest method url token body with
  | none => exact .done ⟨_, rfl⟩
  | some r => exact (Task.Prompt.request r).lift_bind fun _ h ↦ h.elim

theorem accessToken_prompt : accessToken.Prompt fun _ ↦ True :=
  (Task.Prompt.state _).bind fun _ _ ↦ .done trivial

theorem request_first (method url : String) (body : Body) : SendsFirst (request method url body) :=
  accessToken_prompt.lift_bind fun token _ ↦ (sendOnce_first method url token body).bind

theorem fetchVia_first (route : Routes → String) (dec : Decoder α)
    (judge : Envelope α → Except ClientError β) : SendsFirst (fetchVia route dec judge) := by
  have hread : (read Context.routes).Prompt fun _ ↦ True := ⟨fun s ↦ .inr ⟨_, trivial, rfl⟩⟩
  refine hread.lift_bind fun routes _ ↦ SendsFirst.bind ?_
  exact (request_first "GET" (route routes) .empty).bind

end Backoffice.Console
