/-
Module: IccvBackend.System
Purpose: The server as one state machine: the database, the requests that are half done, and every
  step that can come next.
Trusted boundary: human-reviewed spec
Main exports: Task, World, Action, runTask, step, Gravou, Passo, step_passo, Deixou, TarefaNova,
  step_tasks
-/
import IccvBackend.Cron.Reconcile
import IccvBackend.Event.Purchase
import IccvBackend.Payment.Checkout

namespace IccvBackend

/-!
A request that commits more than once, or waits for a house, is cut into stretches.  Each stretch is
one transaction or one read; between two of them the request is a `Task` that holds what it has
read.  An action starts a request or lets one task go on, so a list of actions is an interleaving of
requests, and every interleaving is a list of actions.

The clock and the answers of the houses come with the action that uses them.  A task may also be
dropped at any point: the process stopped, or the request timed out.
-/

/-- The rest of a request. -/
inductive Task where
  | checkoutReactivate (lido : CheckoutLido)
  | checkoutVerify (c : CheckoutEmCurso) (restantes : List (Id × PaymentCheckout))
  | checkoutMark (paymentId : Id) (status : PaymentStatus) (charge : GatewayCharge)
  | checkoutReuse (c : CheckoutEmCurso) (checkout : PaymentCheckout)
  | checkoutCreate (c : CheckoutEmCurso) (pedido : HostedCheckoutRequest)
  | statusWrite (lido : Payment) (dto : UpdatePaymentStatusDto)
  | statusInvalidate (paymentId : Id)
  | refundWrite (paymentId : Id)
  | removeWrite (userId eventId : Id)
  | reconcileNext (restantes : List CobrancaPendente) (casas : Casas)
  | reconcileWrite (cobranca : CobrancaPendente) (status : PaymentStatus) (charge : GatewayCharge)
      (restantes : List CobrancaPendente) (casas : Casas)

/-- The charges a round in flight still holds. -/
def Task.cobrancas : Task → List CobrancaPendente
  | .reconcileNext restantes _ => restantes
  | .reconcileWrite cobranca _ _ restantes _ => cobranca :: restantes
  | _ => []

/-- The payments a checkout in flight read. -/
def Task.captura : Task → List PagamentoLido
  | .checkoutReactivate lido => lido.aCobrar
  | .checkoutVerify c _ => c.unpaidPayments
  | .checkoutReuse c _ => c.unpaidPayments
  | .checkoutCreate c _ => c.unpaidPayments
  | _ => []

structure World where
  db : Database
  tasks : List Task

/-- What the outside gives a task that goes on: the clock and the answer of a house. -/
structure Resposta where
  agora : Instant
  charges : Except GatewayError (List GatewayCharge)
  created : Except GatewayError HostedCheckoutResult

/-- What can happen next. -/
inductive Action where
  | registerUserInEvent (request : RegistrationRequest)
  | updateUserFromEvent (userId eventId : Id) (registrationRoleId : List Id) (agora : Instant)
  | removeUserFromEvent (idUser idEvent roleRegistrationId : Id)
  | comprarProdutos (request : PurchaseRequest) (items : List (Id × Int))
  | createCheckout (dto : CreatePaymentCheckoutDto)
  | updatePaymentStatus (paymentId : Id) (dto : UpdatePaymentStatusDto)
  | refundPayment (paymentId : Id)
  | updatePaymentWebhook (notice : PaymentNotice)
  | updatePaymentCheckoutWebhook (checkoutId : Id) (status : CheckoutStatus)
      (escopo : Option EscopoDaCasa)
  | reconciliar (filtro : Option Id)
  | setRolePrice (roleId : Id) (price : ℚ)
  | setProductPrice (productId : Id) (price : { price : ℚ // 0 ≤ price })
  /-- the database returns unordered rows in another order from now on -/
  | reorder (rank : Id → Nat)
  | resume (i : Nat) (resposta : Resposta)
  | drop (i : Nat)

section Step

variable (amb : Ambiente)

/-- One stretch of a task: what it commits, and the task it leaves.  An exception ends the request
and rolls its transaction back. -/
def runTask (db : Database) (r : Resposta) : Task → Database × Option Task
  | .checkoutReactivate lido =>
      match reativarCheckout db lido with
      | .error _ => (db, none)
      | .ok (db, .error _) => (db, none)
      | .ok (db, .ok c) => (db, some (.checkoutVerify c c.activeCheckouts))
  | .checkoutVerify c ((paymentId, checkout) :: restantes) =>
      match conferirCheckoutAtivo db.catalogue c.lido.event.churchId checkout r.charges with
      | .error _ => (db, none)
      | .ok none => (db, some (.checkoutVerify c restantes))
      | .ok (some (status, charge)) =>
          (inativarCheckout db checkout.checkoutId, some (.checkoutMark paymentId status charge))
  | .checkoutVerify c [] =>
      match checkoutReutilizavel db c r.agora with
      | some checkout => (db, some (.checkoutReuse c checkout))
      | none =>
          match montarPedidoHosted amb c db.nextId r.agora with
          | .error _ => (db, none)
          | .ok pedido => (db.freshId, some (.checkoutCreate c pedido))
  | .checkoutMark paymentId status charge =>
      (gravarStatusDoCheckout db paymentId status charge, none)
  | .checkoutReuse c _ => (reutilizarCheckout db c, none)
  | .checkoutCreate c pedido =>
      match lerResultado c.lido.config r.created with
      | .error _ => (db, none)
      | .ok result =>
          match gravarCheckout db c pedido result r.agora with
          | .error _ => (db, none)
          | .ok db => (db, none)
  | .statusWrite lido dto =>
      match updatePaymentStatusTx db lido dto with
      | .error _ => (db, none)
      | .ok db => (db, some (.statusInvalidate lido.id))
  | .statusInvalidate paymentId => (invalidarCheckouts db paymentId, none)
  | .refundWrite paymentId =>
      match refundPaymentTx db paymentId with
      | .error _ => (db, none)
      | .ok db => (db, none)
  | .removeWrite userId eventId => (removeUserFromEventTx db userId eventId, none)
  | .reconcileNext [] _ => (db, none)
  | .reconcileNext (cobranca :: restantes) casas =>
      match casaDa db.catalogue cobranca casas with
      | (none, casas) => (db, some (.reconcileNext restantes casas))
      | (some _, casas) =>
          match conferirCobranca db cobranca r.charges with
          | none => (db, some (.reconcileNext restantes casas))
          | some (status, charge) =>
              (db, some (.reconcileWrite cobranca status charge restantes casas))
  | .reconcileWrite cobranca status charge restantes casas =>
      (gravarCobranca db cobranca status charge, some (.reconcileNext restantes casas))

/-- Commit what a request returns; an exception leaves the database as it was. -/
def World.commit (w : World) {α : Type} (result : Except Failure α) (db : α → Database) : World :=
  match result with
  | .ok a => { w with db := db a }
  | .error _ => w

/-- Start a task from what a request read; an exception starts none. -/
def World.start (w : World) {α : Type} (result : Except Failure α) (task : α → Task) : World :=
  match result with
  | .ok a => { w with tasks := w.tasks ++ [task a] }
  | .error _ => w

/-- One step of the server. -/
def step (w : World) : Action → World
  | .registerUserInEvent request =>
      w.commit (registerUserInEvent amb.quando w.db request) Prod.fst
  | .updateUserFromEvent userId eventId registrationRoleId agora =>
      w.commit (updateUserFromEvent amb.quando w.db userId eventId registrationRoleId agora)
        Prod.fst
  | .removeUserFromEvent idUser idEvent roleRegistrationId =>
      w.start (removeUserFromEventCheck w.db idUser idEvent roleRegistrationId) fun _ =>
        .removeWrite idUser idEvent
  | .comprarProdutos request items => w.commit (comprarProdutos w.db request items) id
  | .createCheckout dto => w.start (lerCheckout w.db dto) .checkoutReactivate
  | .updatePaymentStatus paymentId dto =>
      w.start (updatePaymentStatusCheck w.db paymentId dto) fun lido => .statusWrite lido dto
  | .refundPayment paymentId =>
      w.start (refundPaymentCheck w.db paymentId) fun _ => .refundWrite paymentId
  | .updatePaymentWebhook notice => w.commit (updatePaymentWebhook w.db notice) id
  | .updatePaymentCheckoutWebhook checkoutId status escopo =>
      w.commit (updatePaymentCheckoutWebhook w.db checkoutId status escopo) id
  | .reconciliar filtro =>
      { w with tasks := w.tasks ++ [.reconcileNext (aReconciliar w.db filtro) []] }
  | .setRolePrice roleId price =>
      { w with db := { w.db with catalogue := w.db.catalogue.setRolePrice roleId price } }
  | .setProductPrice productId price =>
      { w with db := { w.db with catalogue := w.db.catalogue.setProductPrice productId price } }
  | .reorder rank => { w with db := w.db.reorderPayments rank }
  | .resume i resposta =>
      match w.tasks[i]? with
      | none => w
      | some task =>
          let done := runTask amb w.db resposta task
          { db := done.1, tasks := w.tasks.eraseIdx i ++ done.2.toList }
  | .drop i => { w with tasks := w.tasks.eraseIdx i }

/-! ### What a step commits -/

/-- What a stretch of a task leaves in the database. -/
inductive Gravou (db : Database) (resposta : Resposta) : Task → Database → Prop
  | nada (task : Task) : Gravou db resposta task db
  | reativou {lido : CheckoutLido} {depois : Database}
      {outcome : Except Failure CheckoutEmCurso}
      (ok : reativarCheckout db lido = .ok (depois, outcome)) :
      Gravou db resposta (.checkoutReactivate lido) depois
  | inativou {c : CheckoutEmCurso} {row : Id × PaymentCheckout}
      {restantes : List (Id × PaymentCheckout)} :
      Gravou db resposta (.checkoutVerify c (row :: restantes))
        (inativarCheckout db row.2.checkoutId)
  | pediu {c : CheckoutEmCurso} : Gravou db resposta (.checkoutVerify c []) db.freshId
  | marcou {paymentId : Id} {status : PaymentStatus} {charge : GatewayCharge} :
      Gravou db resposta (.checkoutMark paymentId status charge)
        (gravarStatusDoCheckout db paymentId status charge)
  | reutilizou {c : CheckoutEmCurso} {checkout : PaymentCheckout} :
      Gravou db resposta (.checkoutReuse c checkout) (reutilizarCheckout db c)
  | criou {c : CheckoutEmCurso} {pedido : HostedCheckoutRequest} {result : HostedCheckoutResult}
      {depois : Database} (link : lerResultado c.lido.config resposta.created = .ok result)
      (ok : gravarCheckout db c pedido result resposta.agora = .ok depois) :
      Gravou db resposta (.checkoutCreate c pedido) depois
  | editou {lido : Payment} {dto : UpdatePaymentStatusDto} {depois : Database}
      (ok : updatePaymentStatusTx db lido dto = .ok depois) :
      Gravou db resposta (.statusWrite lido dto) depois
  | invalidou {paymentId : Id} :
      Gravou db resposta (.statusInvalidate paymentId) (invalidarCheckouts db paymentId)
  | estornou {paymentId : Id} {depois : Database} (ok : refundPaymentTx db paymentId = .ok depois) :
      Gravou db resposta (.refundWrite paymentId) depois
  | removeu {userId eventId : Id} :
      Gravou db resposta (.removeWrite userId eventId) (removeUserFromEventTx db userId eventId)
  | reconciliou {cobranca : CobrancaPendente} {status : PaymentStatus} {charge : GatewayCharge}
      {restantes : List CobrancaPendente} {casas : Casas} :
      Gravou db resposta (.reconcileWrite cobranca status charge restantes casas)
        (gravarCobranca db cobranca status charge)

theorem runTask_gravou (db : Database) (resposta : Resposta) (task : Task) :
    Gravou db resposta task (runTask amb db resposta task).1 := by
  cases task with
  | checkoutReactivate lido =>
      simp only [runTask]
      split
      · exact .nada _
      · next ok => exact .reativou ok
      · next ok => exact .reativou ok
  | checkoutVerify c restantes =>
      cases restantes with
      | nil =>
          simp only [runTask]
          split
          · exact .nada _
          · split
            · exact .nada _
            · exact .pediu
      | cons row restantes =>
          simp only [runTask]
          split
          · exact .nada _
          · exact .nada _
          · exact .inativou
  | checkoutMark paymentId status charge => exact .marcou
  | checkoutReuse c checkout => exact .reutilizou
  | checkoutCreate c pedido =>
      simp only [runTask]
      split
      · exact .nada _
      · next link =>
          split
          · exact .nada _
          · next ok => exact .criou link ok
  | statusWrite lido dto =>
      simp only [runTask]
      split
      · exact .nada _
      · next ok => exact .editou ok
  | statusInvalidate paymentId => exact .invalidou
  | refundWrite paymentId =>
      simp only [runTask]
      split
      · exact .nada _
      · next ok => exact .estornou ok
  | removeWrite userId eventId => exact .removeu
  | reconcileNext restantes casas =>
      cases restantes with
      | nil => exact .nada _
      | cons cobranca restantes =>
          simp only [runTask]
          split
          · exact .nada _
          · split <;> exact .nada _
  | reconcileWrite cobranca status charge restantes casas => exact .reconciliou

/-- What a step leaves in the database. -/
inductive Passo (w : World) : Action → Database → Prop
  | parado (action : Action) : Passo w action w.db
  | inscreveu {request : RegistrationRequest} {result : Database × List (Id × ResultType)}
      (ok : registerUserInEvent amb.quando w.db request = .ok result) :
      Passo w (.registerUserInEvent request) result.1
  | trocou {userId eventId : Id} {roles : List Id} {agora : Instant}
      {result : Database × List (Id × ResultType)}
      (ok : updateUserFromEvent amb.quando w.db userId eventId roles agora = .ok result) :
      Passo w (.updateUserFromEvent userId eventId roles agora) result.1
  | comprou {request : PurchaseRequest} {items : List (Id × Int)} {depois : Database}
      (ok : comprarProdutos w.db request items = .ok depois) :
      Passo w (.comprarProdutos request items) depois
  | avisou {notice : PaymentNotice} {depois : Database}
      (ok : updatePaymentWebhook w.db notice = .ok depois) :
      Passo w (.updatePaymentWebhook notice) depois
  | avisouCheckout {checkoutId : Id} {status : CheckoutStatus} {escopo : Option EscopoDaCasa}
      {depois : Database}
      (ok : updatePaymentCheckoutWebhook w.db checkoutId status escopo = .ok depois) :
      Passo w (.updatePaymentCheckoutWebhook checkoutId status escopo) depois
  | precoDoIngresso (roleId : Id) (price : ℚ) :
      Passo w (.setRolePrice roleId price)
        { w.db with catalogue := w.db.catalogue.setRolePrice roleId price }
  | precoDoProduto (productId : Id) (price : { price : ℚ // 0 ≤ price }) :
      Passo w (.setProductPrice productId price)
        { w.db with catalogue := w.db.catalogue.setProductPrice productId price }
  | reordenou (rank : Id → Nat) : Passo w (.reorder rank) (w.db.reorderPayments rank)
  | seguiu {i : Nat} {resposta : Resposta} {task : Task} {depois : Database}
      (found : w.tasks[i]? = some task) (gravou : Gravou w.db resposta task depois) :
      Passo w (.resume i resposta) depois

/-- What a request commits: its result, or nothing. -/
theorem World.commit_cases (w : World) {α : Type} (result : Except Failure α)
    (db : α → Database) :
    (w.commit result db).db = w.db ∨ ∃ a, result = .ok a ∧ (w.commit result db).db = db a := by
  cases result with
  | error failure => exact .inl rfl
  | ok a => exact .inr ⟨a, rfl, rfl⟩

@[simp] theorem World.start_db (w : World) {α : Type} (result : Except Failure α)
    (task : α → Task) : (w.start result task).db = w.db := by
  cases result <;> rfl

theorem step_passo (w : World) (action : Action) : Passo amb w action (step amb w action).db := by
  cases action with
  | registerUserInEvent request =>
      rcases w.commit_cases (registerUserInEvent amb.quando w.db request) Prod.fst with
        same | ⟨result, ok, same⟩
      · exact same ▸ .parado _
      · exact same ▸ .inscreveu ok
  | updateUserFromEvent userId eventId roles agora =>
      rcases w.commit_cases (updateUserFromEvent amb.quando w.db userId eventId roles agora)
        Prod.fst with same | ⟨result, ok, same⟩
      · exact same ▸ .parado _
      · exact same ▸ .trocou ok
  | comprarProdutos request items =>
      rcases w.commit_cases (comprarProdutos w.db request items) id with same | ⟨db, ok, same⟩
      · exact same ▸ .parado _
      · exact same ▸ .comprou ok
  | updatePaymentWebhook notice =>
      rcases w.commit_cases (updatePaymentWebhook w.db notice) id with same | ⟨db, ok, same⟩
      · exact same ▸ .parado _
      · exact same ▸ .avisou ok
  | updatePaymentCheckoutWebhook checkoutId status escopo =>
      rcases w.commit_cases (updatePaymentCheckoutWebhook w.db checkoutId status escopo) id with
        same | ⟨db, ok, same⟩
      · exact same ▸ .parado _
      · exact same ▸ .avisouCheckout ok
  | removeUserFromEvent idUser idEvent roleRegistrationId =>
      simp only [step, World.start_db]
      exact .parado _
  | createCheckout dto =>
      simp only [step, World.start_db]
      exact .parado _
  | updatePaymentStatus paymentId dto =>
      simp only [step, World.start_db]
      exact .parado _
  | refundPayment paymentId =>
      simp only [step, World.start_db]
      exact .parado _
  | reconciliar filtro => exact .parado _
  | setRolePrice roleId price => exact .precoDoIngresso roleId price
  | setProductPrice productId price => exact .precoDoProduto productId price
  | reorder rank => exact .reordenou rank
  | resume i resposta =>
      cases found : w.tasks[i]? with
      | none =>
          simp only [step, found]
          exact .parado _
      | some task =>
          simp only [step, found]
          exact .seguiu found (runTask_gravou amb w.db resposta task)
  | drop i => exact .parado _

/-! ### What a step leaves to do -/

/-- The task that follows a stretch of a task. -/
inductive Deixou (db : Database) (resposta : Resposta) : Task → Task → Prop
  | reativou {lido : CheckoutLido} {depois : Database} {c : CheckoutEmCurso}
      (ok : reativarCheckout db lido = .ok (depois, .ok c)) :
      Deixou db resposta (.checkoutReactivate lido) (.checkoutVerify c c.activeCheckouts)
  | conferiu {c : CheckoutEmCurso} {row : Id × PaymentCheckout}
      {restantes : List (Id × PaymentCheckout)} :
      Deixou db resposta (.checkoutVerify c (row :: restantes)) (.checkoutVerify c restantes)
  | mudou {c : CheckoutEmCurso} {row : Id × PaymentCheckout}
      {restantes : List (Id × PaymentCheckout)} {status : PaymentStatus} {charge : GatewayCharge} :
      Deixou db resposta (.checkoutVerify c (row :: restantes)) (.checkoutMark row.1 status charge)
  | reutiliza {c : CheckoutEmCurso} {checkout : PaymentCheckout}
      (found : checkoutReutilizavel db c resposta.agora = some checkout) :
      Deixou db resposta (.checkoutVerify c []) (.checkoutReuse c checkout)
  | pediu {c : CheckoutEmCurso} {pedido : HostedCheckoutRequest}
      (ok : montarPedidoHosted amb c db.nextId resposta.agora = .ok pedido)
      (used : (runTask amb db resposta (.checkoutVerify c [])).1 = db.freshId) :
      Deixou db resposta (.checkoutVerify c []) (.checkoutCreate c pedido)
  | editou {lido : Payment} {dto : UpdatePaymentStatusDto} :
      Deixou db resposta (.statusWrite lido dto) (.statusInvalidate lido.id)
  | pulou {cobranca : CobrancaPendente} {restantes : List CobrancaPendente} {casas casas' : Casas} :
      Deixou db resposta (.reconcileNext (cobranca :: restantes) casas)
        (.reconcileNext restantes casas')
  | decidiu {cobranca : CobrancaPendente} {restantes : List CobrancaPendente} {casas casas' : Casas}
      {status : PaymentStatus} {charge : GatewayCharge}
      (decided : conferirCobranca db cobranca resposta.charges = some (status, charge)) :
      Deixou db resposta (.reconcileNext (cobranca :: restantes) casas)
        (.reconcileWrite cobranca status charge restantes casas')
  | gravou {cobranca : CobrancaPendente} {restantes : List CobrancaPendente} {casas : Casas}
      {status : PaymentStatus} {charge : GatewayCharge} :
      Deixou db resposta (.reconcileWrite cobranca status charge restantes casas)
        (.reconcileNext restantes casas)

theorem runTask_deixou (db : Database) (resposta : Resposta) (task next : Task)
    (left : (runTask amb db resposta task).2 = some next) : Deixou amb db resposta task next := by
  cases task with
  | checkoutReactivate lido =>
      simp only [runTask] at left
      split at left
      · exact nomatch left
      · exact nomatch left
      · next ok =>
          obtain rfl := Option.some.inj left
          exact .reativou ok
  | checkoutVerify c restantes =>
      cases restantes with
      | nil =>
          simp only [runTask] at left
          cases found : checkoutReutilizavel db c resposta.agora with
          | some checkout =>
              rw [found] at left
              obtain rfl := Option.some.inj left
              exact .reutiliza found
          | none =>
              rw [found] at left
              cases ok : montarPedidoHosted amb c db.nextId resposta.agora with
              | error => simp [ok] at left
              | ok pedido =>
                  simp only [ok, Option.some.injEq] at left
                  subst left
                  exact .pediu ok (by simp only [runTask, found, ok])
      | cons row restantes =>
          simp only [runTask] at left
          split at left
          · exact nomatch left
          · obtain rfl := Option.some.inj left
            exact .conferiu
          · obtain rfl := Option.some.inj left
            exact .mudou
  | checkoutCreate c pedido =>
      simp only [runTask] at left
      split at left
      · exact nomatch left
      · split at left <;> exact nomatch left
  | statusWrite lido dto =>
      simp only [runTask] at left
      split at left
      · exact nomatch left
      · obtain rfl := Option.some.inj left
        exact .editou
  | refundWrite paymentId =>
      simp only [runTask] at left
      split at left <;> exact nomatch left
  | reconcileNext restantes casas =>
      cases restantes with
      | nil => exact nomatch left
      | cons cobranca restantes =>
          simp only [runTask] at left
          split at left
          · obtain rfl := Option.some.inj left
            exact .pulou
          · split at left
            · obtain rfl := Option.some.inj left
              exact .pulou
            · next decided =>
                obtain rfl := Option.some.inj left
                exact .decidiu decided
  | reconcileWrite cobranca status charge restantes casas =>
      obtain rfl := Option.some.inj left
      exact .gravou
  | _ => exact nomatch left

/-- The task a step adds: the start of a request, or what follows a stretch. -/
inductive TarefaNova (w : World) : Action → Task → Prop
  | cobra {dto : CreatePaymentCheckoutDto} {lido : CheckoutLido}
      (ok : lerCheckout w.db dto = .ok lido) :
      TarefaNova w (.createCheckout dto) (.checkoutReactivate lido)
  | edita {paymentId : Id} {lido : Payment} {dto : UpdatePaymentStatusDto}
      (ok : updatePaymentStatusCheck w.db paymentId dto = .ok lido) :
      TarefaNova w (.updatePaymentStatus paymentId dto) (.statusWrite lido dto)
  | estorna {paymentId : Id} : TarefaNova w (.refundPayment paymentId) (.refundWrite paymentId)
  | remove {idUser idEvent roleId : Id} :
      TarefaNova w (.removeUserFromEvent idUser idEvent roleId) (.removeWrite idUser idEvent)
  | roda {filtro : Option Id} :
      TarefaNova w (.reconciliar filtro) (.reconcileNext (aReconciliar w.db filtro) [])
  | segue {i : Nat} {resposta : Resposta} {task next : Task} (found : w.tasks[i]? = some task)
      (left : Deixou amb w.db resposta task next) : TarefaNova w (.resume i resposta) next

/-- The tasks in flight that a step leaves as they are. -/
def World.emEspera (w : World) : Action → List Task
  | .resume i _ => w.tasks.eraseIdx i
  | .drop i => w.tasks.eraseIdx i
  | _ => w.tasks

/-- The tasks after a step: those that wait, and one new task at most. -/
theorem step_tasks (w : World) (action : Action) :
    ∃ nova : Option Task, (step amb w action).tasks = w.emEspera action ++ nova.toList ∧
      ∀ task ∈ nova, TarefaNova amb w action task := by
  have started : ∀ {α : Type} (result : Except Failure α) (task : α → Task),
      (∀ a, result = .ok a → TarefaNova amb w action (task a)) →
      ∃ nova : Option Task, (w.start result task).tasks = w.tasks ++ nova.toList ∧
        ∀ task ∈ nova, TarefaNova amb w action task := by
    intro α result task new
    cases result with
    | error => exact ⟨none, (List.append_nil _).symm, fun _ mem => nomatch mem⟩
    | ok a => exact ⟨some (task a), rfl, fun t mem => Option.mem_some_iff.mp mem ▸ new a rfl⟩
  have committed : ∀ {α : Type} (result : Except Failure α) (db : α → Database),
      ∃ nova : Option Task, (w.commit result db).tasks = w.tasks ++ nova.toList ∧
        ∀ task ∈ nova, TarefaNova amb w action task := by
    intro α result db
    refine ⟨none, ?_, fun _ mem => nomatch mem⟩
    cases result <;> exact (List.append_nil _).symm
  cases action with
  | registerUserInEvent request => exact committed _ _
  | updateUserFromEvent userId eventId roles agora => exact committed _ _
  | comprarProdutos request items => exact committed _ _
  | updatePaymentWebhook notice => exact committed _ _
  | updatePaymentCheckoutWebhook checkoutId status escopo => exact committed _ _
  | removeUserFromEvent idUser idEvent roleId => exact started _ _ fun _ _ => .remove
  | createCheckout dto => exact started _ _ fun _ ok => .cobra ok
  | updatePaymentStatus paymentId dto => exact started _ _ fun _ ok => .edita ok
  | refundPayment paymentId => exact started _ _ fun _ _ => .estorna
  | reconciliar filtro =>
      exact ⟨some _, rfl, fun t mem => Option.mem_some_iff.mp mem ▸ .roda⟩
  | resume i resposta =>
      cases found : w.tasks[i]? with
      | none =>
          refine ⟨none, ?_, fun _ mem => nomatch mem⟩
          have absent : w.tasks.length ≤ i := List.getElem?_eq_none_iff.mp found
          simp [step, found, World.emEspera, List.eraseIdx_of_length_le absent]
      | some task =>
          refine ⟨(runTask amb w.db resposta task).2, ?_, fun next left => ?_⟩
          · simp only [step, found, World.emEspera]
          · exact .segue found (runTask_deixou amb w.db resposta task next left)
  | drop i => exact ⟨none, (List.append_nil _).symm, fun _ mem => nomatch mem⟩
  | _ => exact ⟨none, (List.append_nil _).symm, fun _ mem => nomatch mem⟩

end Step

/-! ### A small shop

Where the concrete runs of this development start: one church with one house, two people, and an
event with one group and one product. -/

namespace Loja

def ambiente : Ambiente where
  urlBackend := "https://api"
  urlFrontend := "https://site"
  quando := toString

def evento : Event where
  id := 5
  churchId := 1
  name := "Retiro"
  status := .active
  startDate := ⟨2025, 7, 1⟩
  endDate := none
  publicStore := true
  minorAgeLimitIs18 := true

def pessoa (id : Id) : User where
  id := id
  fullName := "Participante"
  email := "participante@igreja"
  cpf := "00000000000"
  cellphone := "11999999999"
  birthday := ⟨1990, 1, 1⟩
  blocked := false

/-- The catalogue: a ticket and a product of one variant. -/
def catalogo (provider : PaymentProvider) (price : ℚ) (stock : Option Nat) : Catalogue where
  churches := [{ id := 1, plan := some [.events], modulePayment := true }]
  configs :=
    [{ id := 2, churchId := 1, provider := provider, enabled := true, isDefault := true,
       opens := true, webhookSecret := "segredo" }]
  users := [pessoa 3, pessoa 4]
  events := [evento]
  groups :=
    [{ id := 6, eventId := 5, name := "Adultos", capacity := none, active := true, opensAt := none,
       closesAt := none, roles := [{ id := 7, price := price, description := "Inteira" }] }]
  discounts := []
  products :=
    [{ id := 8, eventId := 5, name := "Camiseta", description := none, price := 50
       price_nonneg := by decide, images := []
       variants := [{ id := 9, name := "M", stock := stock }] }]
  roles_nodup := by simp
  variants_nodup := by simp

theorem sem_payments : Lib.Keyed Payment.id 100 [] := Lib.Keyed.nil

theorem sem_itens :
    Lib.Keyed PaymentProductItem.id 100 (([] : List Payment).flatMap Payment.productItems) :=
  Lib.Keyed.nil

/-- The server with this catalogue, before anybody registers or buys. -/
def aberta (provider : PaymentProvider) (price : ℚ) (stock : Option Nat) : World where
  db :=
    { catalogue := catalogo provider price stock
      eventOnUsers := []
      waitlist := []
      payments := []
      nextId := 100
      payments_keyed := sem_payments
      items_keyed := sem_itens }
  tasks := []

/-- A purchase of one unit. -/
def compra (userId : Id) (juntoDaInscricao : Bool) (agora : Instant) : Action :=
  .comprarProdutos ⟨userId, 5, juntoDaInscricao, false, agora⟩ [(9, 1)]

def inscricao (userId : Id) (agora : Instant) : Action :=
  .registerUserInEvent ⟨userId, 5, [7], false, false, agora⟩

/-- The clock, and houses that list `charges` and open the checkout `checkoutId`. -/
def resposta (agora : Instant) (charges : List GatewayCharge) (checkoutId : Id) : Resposta where
  agora := agora
  charges := .ok charges
  created := .ok { checkoutId := checkoutId, payUrl := "https://casa" }

/-- A charge of the house. -/
def cobranca (status : PaymentStatus) (createdAt : Instant) (pago : Option Nat) :
    GatewayCharge where
  status := status
  method := .pix
  createdAt := createdAt
  paidAmountCents := pago
  payload := []

/-- A notification of the house about a payment. -/
def aviso (referenceId : Id) (status : PaymentStatus) (pago : Option Nat) : Action :=
  .updatePaymentWebhook
    { referenceId := referenceId, status := status, method := .pix, payload := []
      escopo := some ⟨.pagbank, 2, 1⟩, pagoEmCentavos := pago }

/-- An edit of the panel that sets a status. -/
def edicao (paymentId : Id) (status : PaymentStatus) : Action :=
  .updatePaymentStatus paymentId
    { status := some status, method := none, receiptFile := none, discountsAppliedId := none }

end Loja

end IccvBackend
