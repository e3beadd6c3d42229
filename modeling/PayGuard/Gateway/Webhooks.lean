import PayGuard.Gateway.Service
import PayGuard.Webhooks.Causes
import PayGuard.Webhooks.NeverLost
import PayGuard.Webhooks.Security

/-
  The webhook endpoint in front of the services.

  The endpoint is public.  A body is verified before it is
  parsed, parsed before it is stored, and nothing else of the
  API writes a webhook.  So what a webhook does to a payment
  was asked for under the shared secret.

  Key definitions include:
    * `JsonValue`
    * `receiveProviderWebhook`
    * `Front` and `frontStep`
    * `Vouched`

  Key theorems include:
    * `receiveProviderWebhook_eq_ok`
    * `webhookRows_of_effect`
    * `desk_of_exec`
    * `webhook_moves_are_signed`
-/

------------------------------------------------------------
-- Documents
------------------------------------------------------------

namespace PayGuard

/-
  What `json.loads` returns.  The endpoint sees of a number
  whether it is zero.
-/
inductive JsonValue where
| null
| bool (value : Bool)
| number (isZero : Bool)
| string (text : String)
| array (items : List JsonValue)
| object (members : List (String × JsonValue))

/- What it raises; only the first is caught. -/
inductive LoadsError where
| jsonDecodeError
| unicodeDecodeError
| recursionError
deriving DecidableEq, Repr

/- The truth value of a document. -/
def JsonValue.truth : JsonValue → Bool
| .null => false
| .bool value => value
| .number isZero => !isZero
| .string text => text ≠ ""
| .array items => !items.isEmpty
| .object members => !members.isEmpty

/- `dict.get`. -/
def getMember
    (members : List (String × JsonValue))
    (name : String) : JsonValue :=
  (members.lookup name).getD .null

/- The transaction a handler would look for. -/
def namedTransaction
    (members : List (String × JsonValue)) : Option String :=
  match getMember members "data" with
  | .object data =>
      match getMember data "provider_transaction_id" with
      | .string transactionId => some transactionId
      | _ => none
  | _ => none

------------------------------------------------------------
-- The Endpoint
------------------------------------------------------------

/- What a deployment of the endpoint fixes. -/
structure WebhookConfig where
  services : Config
  hmac : List UInt8 → List UInt8 → List UInt8
  environ : Option String
  loads : List UInt8 → Except LoadsError JsonValue

structure WebhookRequest where
  signature : Option String := none
  timestamp : Option String := none
  rawBody : List UInt8 := []
deriving DecidableEq, Repr

/- `_webhook_secret`; a missing one is a `RuntimeError`. -/
def webhookSecret
    (environ : Option String) : Except HttpAnswer String :=
  match environ with
  | none => .error .internalServerError
  | some secret =>
      if secret = "" then
        .error .internalServerError
      else
        .ok secret

def VerificationError.answer :
    VerificationError → HttpAnswer
| .webhookSignatureInvalid message =>
    .error (payguardErrorHandler "WEBHOOK_SIGNATURE_INVALID"
      message)
| .typeError => .internalServerError

/-
  The delivery a verified body asks to store.  A document
  that is no object has no `get`, and a column of text takes
  neither numbers nor lists.
-/
def parseWebhook
    (loads : List UInt8 → Except LoadsError JsonValue)
    (rawBody : List UInt8) :
    Except HttpAnswer WebhookDelivery :=
  match loads rawBody with
  | .error .jsonDecodeError =>
      .error (.error (payguardErrorHandler "INVALID_REQUEST"
        "Webhook body is not valid JSON."))
  | .error _ => .error .internalServerError
  | .ok (.object members) =>
      let providerEventId := getMember members "id"
      let eventType := getMember members "type"
      if !providerEventId.truth || !eventType.truth then
        .error (.error (payguardErrorHandler
          "INVALID_REQUEST"
          "Webhook body must include 'id' and 'type'."))
      else
        match providerEventId, eventType with
        | .string providerEventId, .string eventType =>
            .ok
              { providerName := "mock"
                providerEventId := providerEventId
                eventType := eventType
                providerTransactionId :=
                  namedTransaction members }
        | _, _ => .error .internalServerError
  | .ok _ => .error .internalServerError

def receiveProviderWebhook
    (config : WebhookConfig)
    (http : WebhookRequest)
    (now : Int) : Except HttpAnswer WebhookDelivery :=
  match webhookSecret config.environ with
  | .error answer => .error answer
  | .ok secret =>
      match verifyWebhookSignature config.hmac secret
          http.timestamp http.signature http.rawBody now with
      | .error raised => .error raised.answer
      | .ok () => parseWebhook config.loads http.rawBody

------------------------------------------------------------
-- Steps
------------------------------------------------------------

/- What the sender of a webhook hears. -/
inductive WebhookAnswer where
| received
| refused (answer : HttpAnswer)
deriving DecidableEq, Repr

structure Front where
  desk : Desk := {}
  answers : CallId → Option WebhookAnswer := fun _ => none

/-
  A request arrives, and the insert succeeds or is refused
  by the database, or something else takes a step.
-/
inductive FrontLabel where
| deliver
    (call : CallId)
    (http : WebhookRequest)
    (now : Int)
    (stored : Bool)
    (draw : Draw)
| act (label : DeskLabel)
deriving DecidableEq, Repr

def Front.reply
    (front : Front)
    (call : CallId)
    (answer : WebhookAnswer) : Front :=
  { front with
    answers :=
      Function.update front.answers call (some answer) }

/- The step of the services a label leads to. -/
def FrontLabel.served
    (config : WebhookConfig) :
    FrontLabel → Option DeskLabel
| .deliver call http now true draw =>
    match receiveProviderWebhook config http now with
    | .error _ => none
    | .ok delivery =>
        some (.service ⟨call, .receiveWebhook delivery, draw⟩)
| .deliver _ _ _ false _ => none
| .act label => some label

def stepDeliver
    (config : WebhookConfig)
    (front : Front)
    (call : CallId)
    (http : WebhookRequest)
    (now : Int)
    (stored : Bool)
    (draw : Draw) : Option Front :=
  match front.answers call, front.desk.system.calls call with
  | none, .idle =>
      match receiveProviderWebhook config http now with
      | .error answer =>
          some (front.reply call (.refused answer))
      | .ok delivery =>
          if stored then
            (deskStep config.services front.desk
              (.service
                ⟨call, .receiveWebhook delivery, draw⟩)).map
                  (fun desk =>
                    { front.reply call .received with
                      desk := desk })
          else
            some (front.reply call
              (.refused .internalServerError))
  | _, _ => none

/- The step would store a webhook. -/
def DeskLabel.delivers : DeskLabel → Bool
| .service ⟨_, .receiveWebhook _, _⟩ => true
| _ => false

def frontStep
    (config : WebhookConfig)
    (front : Front) : FrontLabel → Option Front
| .deliver call http now stored draw =>
    stepDeliver config front call http now stored draw
| .act label =>
    if label.delivers then
      none
    else
      (deskStep config.services front.desk label).map
        (fun desk => { front with desk := desk })

end PayGuard

------------------------------------------------------------
-- Verified Requests
------------------------------------------------------------

namespace PayGuard

/- The delivery a row was made of. -/
def WebhookEvent.received
    (event : WebhookEvent) : WebhookDelivery where
  providerName := event.providerName
  providerEventId := event.providerEventId
  eventType := event.eventType
  providerTransactionId := event.providerTransactionId

/- A request signed under the secret asks for a delivery. -/
structure Vouched
    (config : WebhookConfig)
    (http : WebhookRequest)
    (now : Int)
    (delivery : WebhookDelivery) : Prop where
  genuine :
    ∃ secret,
      config.environ = some secret ∧
        secret ≠ "" ∧
          Genuine config.hmac secret http.timestamp
            http.signature http.rawBody now
            defaultToleranceSeconds
  said :
    parseWebhook config.loads http.rawBody = .ok delivery

variable {config : WebhookConfig}
variable {http : WebhookRequest}
variable {now : Int}
variable {delivery : WebhookDelivery}
variable {front next : Front}
variable {label : FrontLabel}
variable {labels : List FrontLabel}

/- Only genuine headers are verified. -/
theorem genuine_of_verifyWebhookSignature
    {hmac : List UInt8 → List UInt8 → List UInt8}
    {secret : String}
    {timestampHeader signatureHeader : Option String}
    {rawBody : List UInt8}
    {toleranceSeconds : Int}
    (hVerify :
      verifyWebhookSignature hmac secret timestampHeader
          signatureHeader rawBody now toleranceSeconds =
        .ok ()) :
    Genuine hmac secret timestampHeader signatureHeader
      rawBody now toleranceSeconds := by
  rcases verifyWebhookSignature_cases hmac secret
      timestampHeader signatureHeader rawBody now
      toleranceSeconds with
    ⟨message, hRejected, _⟩ |
      ⟨timestamp, signature, seconds, hCompared, hAnswer⟩
  · rw [hRejected] at hVerify
    cases hVerify
  · rw [hAnswer] at hVerify
    split at hVerify
    · split at hVerify
      · rename_i hSame
        exact ⟨timestamp, signature, seconds, hCompared,
          hSame.symm⟩
      · cases hVerify
    · cases hVerify

theorem webhookSecret_eq_ok
    {environ : Option String}
    {secret : String}
    (hSecret : webhookSecret environ = .ok secret) :
    environ = some secret ∧ secret ≠ "" := by
  unfold webhookSecret at hSecret
  split at hSecret
  · cases hSecret
  · split at hSecret
    · cases hSecret
    · rename_i hNonempty
      cases hSecret
      exact ⟨rfl, hNonempty⟩

/- What gets past the endpoint has been vouched for. -/
theorem receiveProviderWebhook_eq_ok
    (hReceive :
      receiveProviderWebhook config http now =
        .ok delivery) :
    Vouched config http now delivery := by
  unfold receiveProviderWebhook at hReceive
  split at hReceive
  · cases hReceive
  · rename_i secret hSecret
    split at hReceive
    · cases hReceive
    · rename_i hVerify
      rcases webhookSecret_eq_ok hSecret with
        ⟨hEnviron, hNonempty⟩
      exact
        { genuine :=
            ⟨secret, hEnviron, hNonempty,
              genuine_of_verifyWebhookSignature hVerify⟩
          said := hReceive }

------------------------------------------------------------
-- Rows And Deliveries
------------------------------------------------------------

/- Only the endpoint adds rows, and they say what it got. -/
theorem webhookRows_of_effect
    {config : Config}
    {system next : System}
    {call : CallId}
    {draw : Draw}
    {action : Action}
    (hEffect :
      Effect config system call draw action next) :
    next.db.webhooks.map (·.received) =
        system.db.webhooks.map (·.received) ∨
      ∃ delivery,
        action = .receiveWebhook delivery ∧
          next.db =
            receiveWebhook system.db delivery draw := by
  have hSame :
      ∀ db : Database,
        db.webhooks = system.db.webhooks →
          db.webhooks.map (·.received) =
            system.db.webhooks.map (·.received) :=
    fun db hWebhooks => by rw [hWebhooks]
  cases hEffect with
  | receiveWebhook _ => exact .inr ⟨_, rfl, rfl⟩
  | quiet hQuiet => exact .inl (by rw [hQuiet.db])
  | createInsert _ hBody =>
      exact .inl (hSame _
        (createInsert_announces hBody).webhooks)
  | createProcess _ _ hBody =>
      exact .inl (hSame _
        (createProcess_announces hBody).webhooks)
  | createAssess _ => exact .inl rfl
  | createBlock _ _ _ hBody =>
      exact .inl (hSame _
        (createBlock_announces hBody).webhooks)
  | createFinish _ _ _ hBody =>
      exact .inl (hSame _
        (createFinish_announces hBody).webhooks)
  | captureSettled _ _ _ =>
      exact .inl (hSame _
        (SameDeliveries.putKey _ _).webhooks)
  | captureOpen _ _ _ _ => exact .inl rfl
  | captureFinish _ _ hBody =>
      exact .inl (hSame _
        (captureFinish_announces hBody).webhooks)
  | refundReserve _ _ hBody =>
      exact .inl (hSame _
        (refundReserve_announces hBody).webhooks)
  | refundAnswer _ _ => exact .inl rfl
  | refundFinish _ _ _ hBody =>
      exact .inl (hSame _
        (refundFinalize_announces hBody).webhooks)
  | reconcileApply _ _ hBody =>
      exact .inl (hSame _
        (reconcileApply_announces hBody).webhooks)
  | reconcileReport _ => exact .inl rfl
  | failWrite _ _ => exact .inl rfl
  | dispatchFinish _ _ hBody =>
      left
      rcases dispatchEffect_deliveries hBody with
        ⟨_, rfl⟩ | ⟨_, base, status, _, hAnnounces, rfl⟩
      · rfl
      · rw [← hAnnounces.webhooks]
        apply Table.map_updateWhere
        intro row
        rfl

/- A row that is there after a step was there or came in. -/
theorem deskStep_webhookRows
    {config : Config}
    {desk next : Desk}
    {label : DeskLabel}
    {event : WebhookEvent}
    (hStep : deskStep config desk label = some next)
    (hEvent : event ∈ next.system.db.webhooks) :
    label.Accepts event.received ∨
      ∃ old ∈ desk.system.db.webhooks,
        old.received = event.received := by
  have hOld :
      next.system.db.webhooks.map (·.received) =
          desk.system.db.webhooks.map (·.received) →
        ∃ old ∈ desk.system.db.webhooks,
          old.received = event.received := by
    intro hSame
    have hMem :
        event.received ∈
          next.system.db.webhooks.map (·.received) :=
      List.mem_map_of_mem hEvent
    rw [hSame] at hMem
    exact List.mem_map.mp hMem
  cases deskStep_effect hStep with
  | service label hService =>
      rcases webhookRows_of_effect (step_effect hService).2 with
        hSame | ⟨delivery, hAction, hDb⟩
      · exact .inr (hOld hSame)
      · rw [hDb] at hEvent
        unfold receiveWebhook at hEvent
        split at hEvent
        · exact .inr ⟨event, hEvent, rfl⟩
        · rcases List.mem_append.mp hEvent with
            hStored | hNew
          · exact .inr ⟨event, hStored, rfl⟩
          · rw [List.mem_singleton] at hNew
            subst hNew
            exact .inl ⟨label, rfl, hAction⟩
  | fail call text now jitter outboxEventId webhookEventId
      plan db _ hDb hSystem =>
      rw [hSystem, System.commit_db] at hOld
      rcases hDb with rfl | rfl
      · exact .inr (hOld rfl)
      · exact .inr (hOld rfl)
  | flush operator now outboxEventId loaded _ _ hSystem =>
      rw [hSystem] at hOld
      exact .inr (hOld rfl)
  | read operator outboxEventId hSystem =>
      rw [hSystem] at hOld
      exact .inr (hOld rfl)
  | kill operator hSystem =>
      rw [hSystem] at hOld
      exact .inr (hOld rfl)

/- Every row of a run came in by a delivery. -/
theorem rows_accepted
    {config : Config}
    {desk : Desk}
    {labels : List DeskLabel}
    (hRun :
      Lts.exec (deskStep config) {} labels = some desk) :
    ∀ event ∈ desk.system.db.webhooks,
      ∃ label ∈ labels, label.Accepts event.received := by
  have hKeep :
      ∀ (past : List DeskLabel) (desk : Desk)
        (label : DeskLabel) (next : Desk),
        Lts.exec (deskStep config) {} past = some desk →
          (∀ event ∈ desk.system.db.webhooks,
            ∃ made ∈ past, made.Accepts event.received) →
            deskStep config desk label = some next →
              ∀ event ∈ next.system.db.webhooks,
                ∃ made ∈ past ++ [label],
                  made.Accepts event.received := by
    intro past desk label next _ hPast hStep event hEvent
    rcases deskStep_webhookRows hStep hEvent with
      hAccepts | ⟨old, hOld, hSame⟩
    · exact ⟨label, List.mem_append_right _
        (List.mem_singleton.mpr rfl), hAccepts⟩
    · rcases hPast old hOld with ⟨made, hMade, hAccepts⟩
      exact ⟨made, List.mem_append_left _ hMade,
        hSame ▸ hAccepts⟩
  have hStart :
      ∀ event ∈ ({} : Desk).system.db.webhooks,
        ∃ made ∈ ([] : List DeskLabel),
          made.Accepts event.received := by
    intro event hEvent
    cases hEvent
  have hAlways := Lts.invariant_of_history hKeep hStart hRun
  exact hAlways

------------------------------------------------------------
-- Every Run
------------------------------------------------------------

/- The services go through a run of their own. -/
theorem desk_of_exec
    (hRun :
      Lts.exec (frontStep config) {} labels = some front) :
    Lts.exec (deskStep config.services) {}
        (labels.filterMap (FrontLabel.served config)) =
      some front.desk := by
  have hView :
      ∀ (before : Front) (label : FrontLabel)
        (after : Front),
        frontStep config before label = some after →
          (label.served config = none ∧
              after.desk = before.desk) ∨
            ∃ served,
              label.served config = some served ∧
                deskStep config.services before.desk
                    served =
                  some after.desk := by
    intro before label after hStep
    cases label with
    | act label =>
        simp only [frontStep] at hStep
        split at hStep
        · cases hStep
        · rcases Option.map_eq_some_iff.mp hStep with
            ⟨desk, hDesk, rfl⟩
          exact .inr ⟨label, rfl, hDesk⟩
    | deliver call http now stored draw =>
        simp only [frontStep, stepDeliver] at hStep
        split at hStep
        · split at hStep
          · rename_i answer hReceive
            cases hStep
            refine .inl ⟨?_, rfl⟩
            cases stored with
            | false => rfl
            | true => simp only [FrontLabel.served, hReceive]
          · rename_i delivery hReceive
            cases stored with
            | false =>
                cases hStep
                exact .inl ⟨rfl, rfl⟩
            | true =>
                rw [if_pos rfl] at hStep
                rcases Option.map_eq_some_iff.mp hStep with
                  ⟨desk, hDesk, rfl⟩
                refine .inr ⟨_, ?_, hDesk⟩
                simp only [FrontLabel.served, hReceive]
        · cases hStep
  exact Lts.exec_filterMap Front.desk
    (FrontLabel.served config) hView hRun

/- A delivery whose event is on file adds nothing. -/
theorem receiveWebhook_of_named
    {db : Database}
    {draw : Draw}
    (hNamed : db.Named delivery.name) :
    receiveWebhook db delivery draw = db := by
  rcases List.mem_map.mp hNamed with ⟨event, hEvent, hName⟩
  have hBoth := Prod.mk.inj hName
  unfold receiveWebhook
  rw [if_pos]
  rw [List.any_eq_true]
  exact ⟨event, hEvent, by simpa using hBoth⟩

theorem resent_changes_nothing
    {call : CallId}
    {draw : Draw}
    (hNamed : front.desk.system.db.Named delivery.name)
    (hReceive :
      receiveProviderWebhook config http now = .ok delivery)
    (hStep :
      frontStep config front
        (.deliver call http now true draw) = some next) :
    next.desk.system.db = front.desk.system.db ∧
      next.answers call = some .received := by
  simp only [frontStep, stepDeliver, hReceive,
    if_true] at hStep
  split at hStep
  · rcases Option.map_eq_some_iff.mp hStep with
      ⟨desk, hDesk, rfl⟩
    refine ⟨?_, Function.update_self _ _ _⟩
    cases deskStep_effect hDesk with
    | service _ hService =>
        unfold step at hService
        split at hService
        · simp only [callStep, stepReceiveWebhook] at hService
          split at hService
          · have hDb := congrArg (Option.map (·.db)) hService
            rw [Option.map_some, Option.map_some,
              Option.some.injEq] at hDb
            exact hDb.symm.trans
              (receiveWebhook_of_named hNamed)
          · cases hService
        · cases hService
  · cases hStep

/- An accepted delivery was vouched for by its request. -/
theorem served_accepts
    {served : DeskLabel}
    (hServed : label.served config = some served)
    (hAccepts : served.Accepts delivery)
    (hStep : frontStep config front label = some next) :
    ∃ call http now draw,
      label = .deliver call http now true draw ∧
        receiveProviderWebhook config http now =
          .ok delivery := by
  rcases hAccepts with ⟨service, rfl, hAction⟩
  cases label with
  | act label =>
      cases hServed
      rcases service with ⟨call, action, draw⟩
      simp only at hAction
      subst hAction
      cases hStep
  | deliver call http now stored draw =>
      cases stored with
      | false => cases hServed
      | true =>
          simp only [FrontLabel.served] at hServed
          split at hServed
          · cases hServed
          · rename_i received hReceive
            cases hServed
            cases hAction
            exact ⟨call, http, now, draw, rfl, hReceive⟩

/-
  Nothing but requests signed under the shared secret moves a
  payment as a webhook.  Every event a webhook signed goes
  back to a row that asks for the move and names a
  transaction of the payment, and every row goes back to a
  request whose signature fits its body and a recent
  timestamp.  Sending an accepted event again, under whatever
  signature and with whatever else in the body, leaves the
  database as it is.
-/
theorem webhook_moves_are_signed
    (config : WebhookConfig)
    (labels : List FrontLabel)
    (front : Front)
    (hRun :
      Lts.exec (frontStep config) {} labels = some front) :
    (∀ event ∈ front.desk.system.db.events,
        event.actor = .webhook →
          ∃ webhook ∈ front.desk.system.db.webhooks,
            webhook.Asks front.desk.system.db
              event.paymentIntentId event.toStatus) ∧
      (∀ webhook ∈ front.desk.system.db.webhooks,
        ∃ call http now draw,
          .deliver call http now true draw ∈ labels ∧
            Vouched config http now webhook.received) ∧
      (∀ call http now draw delivery,
        .deliver call http now true draw ∈ labels →
          receiveProviderWebhook config http now =
              .ok delivery →
            ∀ again resent later redrawn copy next,
              receiveProviderWebhook config resent later =
                  .ok copy →
                copy.name = delivery.name →
                  frontStep config front
                      (.deliver again resent later true
                        redrawn) = some next →
                    next.desk.system.db =
                        front.desk.system.db ∧
                      next.answers again =
                        some .received) := by
  have hDesk := desk_of_exec hRun
  refine ⟨?_, ?_, ?_⟩
  · intro event hEvent hActor
    have hCaused :=
      Lts.invariant_of_exec
        (fun _ _ _ hBefore hStep =>
          caused_step hBefore hStep)
        caused_initial hDesk
    rcases hCaused.events event hEvent hActor with
      ⟨_, webhook, hWebhook, _, hAsks⟩
    exact ⟨webhook, hWebhook, hAsks⟩
  · intro webhook hWebhook
    rcases rows_accepted hDesk webhook hWebhook with
      ⟨served, hMem, hAccepts⟩
    rcases List.mem_filterMap.mp hMem with
      ⟨label, hLabel, hServed⟩
    rcases Lts.step_of_mem hRun hLabel with
      ⟨before, after, hStep⟩
    rcases served_accepts hServed hAccepts hStep with
      ⟨call, http, now, draw, rfl, hReceive⟩
    exact ⟨call, http, now, draw, hLabel,
      receiveProviderWebhook_eq_ok hReceive⟩
  · intro call http now draw delivery hLabel hReceive again
      resent later redrawn copy next hCopy hName hStep
    have hServed :
        FrontLabel.served config
            (.deliver call http now true draw) =
          some (.service
            ⟨call, .receiveWebhook delivery, draw⟩) := by
      simp only [FrontLabel.served, hReceive]
    have hNamed :=
      accepted_on_file hDesk
        (List.mem_filterMap.mpr ⟨_, hLabel, hServed⟩)
        ⟨_, rfl, rfl⟩
    rw [← hName] at hNamed
    exact resent_changes_nothing hNamed hCopy hStep

/- The body of a webhook that settles a payment. -/
def settledBody : List UInt8 :=
  encode
    ("\x7b\"id\": \"evt\", \"type\": " ++
      "\"payment.succeeded\", \"data\": " ++
      "\x7b\"provider_transaction_id\": \"txn\"\x7d\x7d")

def smallEndpoint : WebhookConfig where
  services := { sha256 := spellOut }
  hmac := fun key _ => key
  environ := some "k"
  loads := fun rawBody =>
    if rawBody = settledBody then
      .ok (.object
        [("id", .string "evt"),
          ("type", .string "payment.succeeded"),
          ("data", .object
            [("provider_transaction_id", .string "txn")])])
    else
      .error .jsonDecodeError

def settledRequest : WebhookRequest where
  signature := some "6b"
  timestamp := some "100"
  rawBody := settledBody

/- A forged request is refused; the signed one settles. -/
def settledFrontRun : List FrontLabel :=
  authorizedRun.map (fun label => .act (.service label)) ++
    [.deliver 1 { settledRequest with signature := some "6c" }
        100 true (.numbered 6),
      .deliver 2 settledRequest 160 true (.numbered 6),
      .act (.service
        ⟨3, .dispatchBegin 6 1, .numbered 7⟩),
      .act (.service ⟨3, .dispatchFinish, .numbered 8⟩)]

theorem webhook_moves_are_signed_settled :
    ∃ front,
      Lts.exec (frontStep smallEndpoint) {}
          settledFrontRun = some front ∧
        (∃ event ∈ front.desk.system.db.events,
          event.actor = .webhook ∧
            event.toStatus = .succeeded) ∧
        front.answers 1 =
          some (.refused (.error
            { status := 401
              code := "WEBHOOK_SIGNATURE_INVALID"
              message :=
                "Signature verification failed." })) ∧
        ∀ webhook ∈ front.desk.system.db.webhooks,
          ∃ call http now draw,
            .deliver call http now true draw ∈
                settledFrontRun ∧
              Vouched smallEndpoint http now
                webhook.received := by
  have hRun :
      (Lts.exec (frontStep smallEndpoint) {}
        settledFrontRun).map (fun front =>
          (decide (∃ event ∈ front.desk.system.db.events,
              event.actor = .webhook ∧
                event.toStatus = .succeeded),
            front.answers 1)) =
        some (true,
          some (.refused (.error
            { status := 401
              code := "WEBHOOK_SIGNATURE_INVALID"
              message :=
                "Signature verification failed." }))) := by
    decide +kernel
  rcases Option.map_eq_some_iff.mp hRun with
    ⟨front, hExec, hBoth⟩
  rw [Prod.mk.injEq] at hBoth
  exact ⟨front, hExec, of_decide_eq_true hBoth.1, hBoth.2,
    (webhook_moves_are_signed _ _ _ hExec).2.1⟩

end PayGuard
