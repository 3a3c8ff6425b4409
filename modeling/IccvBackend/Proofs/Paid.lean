/-
Module: IccvBackend.Proofs.Paid
Purpose: A payment that was paid for stays paid while every write still goes by what was read.
Trusted boundary: none
Main exports: PagoFica, RespeitaPago, pagoFica_of_statusDepois, LeituraVale, LeiturasEmDia,
  pagoFica_run
-/
import IccvBackend.Lib.Tasks
import IccvBackend.Proofs.StatusWrites
import IccvBackend.ReadCommitted

namespace IccvBackend

open Lib

/-!
Whoever writes a status decided it by what was read before.  A checkout and an edit of the panel
read every payment they write on, and leave out the paid ones.  A notification looks at the first of
its rows, and a round at one payment of each reference.  So a payment is overwritten in two ways
only: it was paid between the read and the write, or it was paid already and nobody looked.
-/

/-- A payment that was paid for. -/
def Payment.Paga (p : Payment) : Prop := p.status = .paid ∧ 0 < p.amount

instance (p : Payment) : Decidable p.Paga := inferInstanceAs (Decidable (_ ∧ _))

/-- No payment that was paid for leaves "paid", but by a refund. -/
def PagoFica (antes depois : Database) : Prop :=
  ∀ p ∈ antes.payments, p.Paga →
    ∀ q ∈ depois.payments, q.id = p.id → q.status = .paid ∨ q.status = .refunded

/-- The status a write leaves is "paid" or "refunded", or none of the payments it writes on was paid
for. -/
def RespeitaPago (db : Database) (write : Option ((Payment → Bool) × PaymentStatus)) : Prop :=
  ∀ selected status, write = some (selected, status) →
    status = .paid ∨ status = .refunded ∨ ∀ p ∈ db.payments, selected p = true → ¬ p.Paga

/-- A step whose write respects what was paid for keeps it. -/
theorem pagoFica_of_statusDepois {antes depois : Database}
    {write : Option ((Payment → Bool) × PaymentStatus)}
    (rows : ∀ q ∈ depois.payments, StatusDepois antes write q)
    (respeita : RespeitaPago antes write) : PagoFica antes depois := by
  intro p mem paga q q_mem id
  have same_row : ∀ p' ∈ antes.payments, q.id = p'.id → p' = p := fun p' p'_mem same =>
    antes.eq_of_id_eq p'_mem mem (same.symm.trans id)
  cases rows q q_mem with
  | mantido p' p'_mem same status =>
      obtain rfl := same_row p' p'_mem same
      exact .inl (status.trans paga.1)
  | reativado p' p'_mem same frees =>
      obtain rfl := same_row p' p'_mem same
      rw [paga.1] at frees
      exact absurd frees (by decide)
  | gratuito p' p'_mem same free =>
      obtain rfl := same_row p' p'_mem same
      exact absurd paga.2 (free ▸ lt_irrefl _)
  | estornado p' p'_mem same refunded => exact .inr refunded
  | novo fresh =>
      have old := antes.payments_keyed.lt_next p mem
      exact absurd (id ▸ fresh) (not_le.mpr old)
  | escrito p' p'_mem same selected status wrote sel written =>
      obtain rfl := same_row p' p'_mem same
      rcases respeita selected status wrote with rfl | rfl | unpaid
      · exact .inl written
      · exact .inr written
      · exact absurd paga (unpaid p' p'_mem sel)

/-! ### The condition -/

/-- None of the payments a write reaches was paid for since they were read. -/
def NinguemPagou (lidos : List Payment) (db : Database) (selected : Payment → Bool) : Prop :=
  ∀ p ∈ db.payments, selected p = true → p.Paga → ∃ lido ∈ lidos, lido.id = p.id ∧ lido.Paga

/-- None of the payments a write reaches was paid for already when they were read. -/
def NenhumaEstavaPaga (lidos : List Payment) (db : Database) (selected : Payment → Bool) : Prop :=
  ∀ p ∈ db.payments, selected p = true → ∀ lido ∈ lidos, lido.id = p.id → ¬ lido.Paga

/-- The task writes on payments it has not looked at. -/
def Task.naoOlhou : Task → Bool
  | .reconcileWrite _ _ _ _ _ => true
  | _ => false

/-- At a write, nobody paid since the first read of its request, and whoever was not looked at was
not paid then.  The history holds the database of the first read of each request. -/
def LeituraVale (sh : Servidor × List Database) : Servidor.Acao → Prop
  | .agir (.resume i resposta) =>
      ∀ write ∈ escritaDeStatus sh.1.mundo (.resume i resposta),
        write.2 = .paid ∨ write.2 = .refunded ∨
          ∀ lido ∈ sh.2[i]?, NinguemPagou lido.payments sh.1.mundo.db write.1 ∧
            ∀ task ∈ sh.1.mundo.tasks[i]?, task.naoOlhou = true →
              NenhumaEstavaPaga lido.payments sh.1.mundo.db write.1
  | .gravarAviso k =>
      ∀ lido ∈ sh.1.avisos[k]?, lido.status = .paid ∨ lido.status = .refunded ∨
        NinguemPagou lido.pagamentos sh.1.mundo.db
            (fun p => p.id ∈ lido.pagamentos.map Payment.id) ∧
          ∀ row ∈ lido.outras, ¬ row.1.Paga
  | _ => True

instance (lidos : List Payment) (db : Database) (selected : Payment → Bool) :
    Decidable (NinguemPagou lidos db selected) :=
  inferInstanceAs (Decidable (∀ p ∈ db.payments, selected p = true → p.Paga →
    ∃ lido ∈ lidos, lido.id = p.id ∧ lido.Paga))

instance (lidos : List Payment) (db : Database) (selected : Payment → Bool) :
    Decidable (NenhumaEstavaPaga lidos db selected) :=
  inferInstanceAs (Decidable (∀ p ∈ db.payments, selected p = true →
    ∀ lido ∈ lidos, lido.id = p.id → ¬ lido.Paga))

instance (sh : Servidor × List Database) : ∀ acao, Decidable (LeituraVale sh acao)
  | .agir (.resume i resposta) =>
      inferInstanceAs (Decidable (∀ write ∈ escritaDeStatus sh.1.mundo (.resume i resposta),
        write.2 = .paid ∨ write.2 = .refunded ∨
          ∀ lido ∈ sh.2[i]?, NinguemPagou lido.payments sh.1.mundo.db write.1 ∧
            ∀ task ∈ sh.1.mundo.tasks[i]?, task.naoOlhou = true →
              NenhumaEstavaPaga lido.payments sh.1.mundo.db write.1))
  | .gravarAviso k =>
      inferInstanceAs (Decidable (∀ lido ∈ sh.1.avisos[k]?, lido.status = .paid ∨
        lido.status = .refunded ∨
          NinguemPagou lido.pagamentos sh.1.mundo.db
              (fun p => p.id ∈ lido.pagamentos.map Payment.id) ∧
            ∀ row ∈ lido.outras, ¬ row.1.Paga))
  | .largarAviso _ => isTrue trivial
  | .agir (.registerUserInEvent _) | .agir (.updateUserFromEvent _ _ _ _)
  | .agir (.removeUserFromEvent _ _ _) | .agir (.comprarProdutos _ _) | .agir (.createCheckout _)
  | .agir (.updatePaymentStatus _ _) | .agir (.refundPayment _) | .agir (.updatePaymentWebhook _)
  | .agir (.updatePaymentCheckoutWebhook _ _ _) | .agir (.reconciliar _)
  | .agir (.setRolePrice _ _) | .agir (.setProductPrice _ _) | .agir (.reorder _)
  | .agir (.drop _) => isTrue trivial

/-- The database of the first read of each task, after a step of the server. -/
def lidoPelasTarefas (lidos : List Database) (w : World) (action : Action) (depois : World) :
    List Database :=
  let novas := depois.tasks.drop (w.emEspera action).length
  match action with
  | .resume i _ => lidos.eraseIdx i ++ novas.map fun _ => lidos.getD i w.db
  | .drop i => lidos.eraseIdx i
  | _ => lidos ++ novas.map fun _ => w.db

/-- The history of a run. -/
def anotarLeituras (lidos : List Database) (s : Servidor) (acao : Servidor.Acao)
    (depois : Servidor) : List Database :=
  match acao with
  | .agir action => lidoPelasTarefas lidos s.mundo action depois.mundo
  | _ => lidos

/-! ### What a request has read -/

/-- The payments a task has read as not paid, and may write another status on than "refunded". -/
def Task.emAberto : Task → List Id
  | .checkoutReactivate lido => lido.aCobrar.map fun p => p.payment.id
  | .checkoutVerify c restantes => c.ids ++ restantes.map Prod.fst
  | .checkoutMark paymentId _ _ => [paymentId]
  | .checkoutReuse c _ => c.ids
  | .checkoutCreate c _ => c.ids
  | .statusWrite lido dto => if dto.status = some .refunded then [] else [lido.id]
  | _ => []

/-- What the task holds as not paid was not when it was read. -/
def Task.Leu (task : Task) (lido : Database) : Prop :=
  ∀ id ∈ task.emAberto, ∀ p ∈ lido.payments, p.id = id → ¬ p.Paga

/-- Every task and every notification goes by what it has read. -/
structure LeiturasEmDia (s : Servidor) (lidos : List Database) : Prop where
  tarefas : List.Forall₂ Task.Leu s.mundo.tasks lidos
  avisos : ∀ lido ∈ s.avisos, lido.primeira.1.status ≠ .paid

section Passo

variable {amb : Ambiente} {s : Servidor} {w : World} {lidos : List Database}

/-- A task holds no more payments than the one it follows. -/
theorem emAberto_deixou {db : Database} {resposta : Resposta} {task next : Task}
    (left : Deixou amb db resposta task next) : next.emAberto ⊆ task.emAberto := by
  intro id mem
  cases left with
  | @reativou lido depois c ok =>
      obtain ⟨_, r, _, _, outcome⟩ := reativarCheckout_ok ok
      obtain rfl := outcome _ rfl
      -- the active checkouts are of payments that are charged, and these of payments that were read
      have held : ∀ p ∈ unpaidPaymentsOf lido.aCobrar r,
          p.payment.id ∈ Task.emAberto (.checkoutReactivate lido) := by
        intro p p_mem
        obtain ⟨q, q_mem, rfl⟩ := List.mem_map.mp p_mem
        exact List.mem_map.mpr ⟨q, List.mem_of_mem_filter q_mem, rfl⟩
      rcases List.mem_append.mp mem with charged | active
      · obtain ⟨p, p_mem, rfl⟩ := List.mem_map.mp charged
        exact held p p_mem
      · obtain ⟨row, row_mem, rfl⟩ := List.mem_map.mp active
        obtain ⟨p, p_mem, checkout⟩ := List.mem_flatMap.mp row_mem
        obtain ⟨_, _, rfl⟩ := List.mem_map.mp checkout
        exact held p p_mem
  | conferiu =>
      rcases List.mem_append.mp mem with charged | later
      · exact List.mem_append_left _ charged
      · exact List.mem_append_right _ (List.mem_cons_of_mem _ later)
  | mudou =>
      obtain rfl := List.mem_singleton.mp mem
      exact List.mem_append_right _ List.mem_cons_self
  | reutiliza => exact List.mem_append_left _ mem
  | pediu => exact List.mem_append_left _ mem
  | editou => cases mem
  | pulou => cases mem
  | decidiu => cases mem
  | gravou => cases mem

/-- A task that starts holds what it has just read, and no paid payment. -/
theorem leu_nova {action : Action} {task : Task} (nova : TarefaNova amb w action task)
    (starts : ∀ i resposta, action ≠ .resume i resposta) : task.Leu w.db := by
  intro id mem p p_mem this paga
  cases nova with
  | cobra ok =>
      obtain ⟨lido, lido_mem, rfl⟩ := List.mem_map.mp mem
      have unpaid : lido.payment.status ≠ .paid := by
        rw [(lerCheckout_ok ok).2] at lido_mem
        have kept := (List.mem_filter.mp lido_mem).2
        simp only [Bool.and_eq_true, decide_eq_true_eq] at kept
        exact kept.1
      obtain rfl := w.db.eq_of_id_eq p_mem (mem_aCobrar ok lido_mem).1 this
      exact unpaid paga.1
  | @edita paymentId lido dto ok =>
      simp only [updatePaymentStatusCheck, bind_eq_ok_iff, orFail_eq_ok_iff, failIf_eq_ok_iff,
        pure_eq_ok_iff] at ok
      obtain ⟨payment, found, _, checked, _, _, rfl⟩ := ok
      simp only [Task.emAberto] at mem
      split at mem
      · cases mem
      · next edited =>
          obtain rfl := List.mem_singleton.mp mem
          obtain rfl := w.db.eq_of_id_eq p_mem (Database.payment?_mem found).1 this
          exact checked ⟨paga.1, edited⟩
  | estorna => cases mem
  | remove => cases mem
  | roda => cases mem
  | segue => exact absurd rfl (starts _ _)

/-- The write of a task reaches payments it holds as not paid, unless it is a refund, or the write
of a round. -/
theorem emAberto_of_escrita {i : Nat} {resposta : Resposta} {task : Task}
    (found : w.tasks[i]? = some task) (olhou : task.naoOlhou = false) {selected : Payment → Bool}
    {status : PaymentStatus}
    (wrote : escritaDeStatus w (.resume i resposta) = some (selected, status)) :
    status = .refunded ∨ ∀ p, selected p = true → p.id ∈ task.emAberto := by
  simp only [escritaDeStatus, escritaSemConferencia, edicaoDeStatus, found] at wrote
  cases task with
  | checkoutMark paymentId written charge =>
      obtain ⟨rfl, rfl⟩ := Prod.mk.inj (Option.some.inj wrote)
      exact .inr fun p sel => List.mem_singleton.mpr (of_decide_eq_true sel)
  | checkoutReuse c checkout =>
      obtain ⟨rfl, rfl⟩ := Prod.mk.inj (Option.some.inj wrote)
      exact .inr fun p sel => of_decide_eq_true sel
  | checkoutCreate c pedido =>
      dsimp only at wrote
      split at wrote
      · obtain ⟨rfl, rfl⟩ := Prod.mk.inj (Option.some.inj wrote)
        exact .inr fun p sel => of_decide_eq_true sel
      · cases wrote
  | statusWrite lido dto =>
      dsimp only [Option.none_or] at wrote
      split at wrote
      · obtain ⟨novo, edited, pair⟩ := Option.map_eq_some_iff.mp wrote
        obtain ⟨rfl, rfl⟩ := Prod.mk.inj pair
        by_cases refund : novo = .refunded
        · exact .inl refund
        · refine .inr fun p sel => ?_
          simp only [Task.emAberto, edited, Option.some.injEq, refund, if_false]
          exact List.mem_singleton.mpr (of_decide_eq_true sel)
      · cases wrote
  | reconcileWrite => cases olhou
  | _ => cases wrote

/-- A write that goes by what was read respects what was paid for. -/
theorem LeiturasEmDia.respeita (emDia : LeiturasEmDia s lidos) {action : Action}
    (other : ∀ notice, action ≠ .updatePaymentWebhook notice)
    (vale : LeituraVale (s, lidos) (.agir action)) :
    RespeitaPago s.mundo.db (escritaDeStatus s.mundo action) := by
  intro selected status wrote
  cases action with
  | updatePaymentWebhook notice => exact absurd rfl (other notice)
  | resume i resposta =>
      rcases vale _ wrote with paid | refunded | fresh
      · exact .inl paid
      · exact .inr (.inl refunded)
      cases found : s.mundo.tasks[i]? with
      | none => simp [escritaDeStatus, escritaSemConferencia, edicaoDeStatus, found] at wrote
      | some task =>
          obtain ⟨lido, read, leu⟩ := exists_beside emDia.tarefas found
          obtain ⟨ninguem, nenhuma⟩ := fresh lido read
          cases olhou : task.naoOlhou with
          | true =>
              refine .inr (.inr fun p mem sel paga => ?_)
              obtain ⟨antes, antes_mem, same, was⟩ := ninguem p mem sel paga
              exact nenhuma task found olhou p mem sel antes antes_mem same was
          | false =>
              rcases emAberto_of_escrita found olhou wrote with refund | held
              · exact .inr (.inl refund)
              · refine .inr (.inr fun p mem sel paga => ?_)
                obtain ⟨antes, antes_mem, same, was⟩ := ninguem p mem sel paga
                exact leu p.id (held p sel) antes antes_mem same was
  | _ => cases wrote

/-- The write of a notification that goes by what it read respects what was paid for. -/
theorem LeiturasEmDia.respeitaAviso (emDia : LeiturasEmDia s lidos) {k : Nat} {lido : AvisoLido}
    (found : s.avisos[k]? = some lido) (vale : LeituraVale (s, lidos) (.gravarAviso k)) :
    RespeitaPago s.mundo.db
      (some (fun p => p.id ∈ lido.pagamentos.map Payment.id, lido.status)) := by
  intro selected status wrote
  obtain ⟨rfl, rfl⟩ := Prod.mk.inj (Option.some.inj wrote)
  rcases vale lido found with paid | refunded | ⟨ninguem, outras⟩
  · exact .inl paid
  · exact .inr (.inl refunded)
  · refine .inr (.inr fun p mem sel paga => ?_)
    obtain ⟨antes, antes_mem, _, was⟩ := ninguem p mem sel paga
    rcases List.mem_cons.mp antes_mem with rfl | other
    · exact emDia.avisos lido (List.mem_of_getElem? found) was.1
    · obtain ⟨row, row_mem, rfl⟩ := List.mem_map.mp other
      exact outras row row_mem was

theorem escreveStatus_gravarAviso (db : Database) (lido : AvisoLido) :
    EscreveStatus db (gravarAviso db lido) (fun p => p.id ∈ lido.pagamentos.map Payment.id)
      lido.status := by
  unfold gravarAviso
  dsimp only
  split
  · exact escreveStatus_updateMany_checkouts _ _ rfl rfl _ _
  · exact escreveStatus_updateMany _ _ rfl rfl

/-- One step that goes by what was read keeps what was paid for. -/
theorem LeiturasEmDia.pagoFica (emDia : LeiturasEmDia s lidos) {acao : Servidor.Acao}
    (vale : LeituraVale (s, lidos) acao) : PagoFica s.mundo.db (s.passo amb acao).mundo.db := by
  have still : PagoFica s.mundo.db s.mundo.db := fun p mem paga q q_mem id =>
    .inl (s.mundo.db.eq_of_id_eq q_mem mem id ▸ paga.1)
  cases acao with
  | agir action =>
      by_cases notification : ∃ notice, action = .updatePaymentWebhook notice
      · obtain ⟨notice, rfl⟩ := notification
        simp only [Servidor.passo, Servidor.lerAviso]
        split <;> exact still
      · have other := not_exists.mp notification
        rw [Servidor.passo_agir other]
        exact pagoFica_of_statusDepois (passo_status (step_passo amb s.mundo action))
          (emDia.respeita other vale)
  | gravarAviso k =>
      simp only [Servidor.passo, Servidor.gravarAviso]
      split
      · next lido found =>
          exact pagoFica_of_statusDepois ((escreveStatus_gravarAviso _ lido).statusDepois rfl)
            (emDia.respeitaAviso found vale)
      · exact still
  | largarAviso k => exact still

/-- What the tasks after a step of the server have read. -/
theorem forall₂_lidoPelasTarefas (tarefas : List.Forall₂ Task.Leu w.tasks lidos)
    (action : Action) :
    List.Forall₂ Task.Leu (step amb w action).tasks
      (lidoPelasTarefas lidos w action (step amb w action)) := by
  obtain ⟨nova, tasks, new⟩ := step_tasks amb w action
  have novas : (step amb w action).tasks.drop (w.emEspera action).length = nova.toList := by
    rw [tasks, List.drop_left]
  -- the first read of the new task
  have beside : ∀ lido, (∀ task ∈ nova, task.Leu lido) →
      List.Forall₂ Task.Leu nova.toList (nova.toList.map fun _ => lido) := by
    intro lido leu
    cases nova with
    | none => exact .nil
    | some task => exact .cons (leu task rfl) .nil
  rw [tasks] at novas ⊢
  unfold lidoPelasTarefas
  dsimp only
  rw [tasks, novas]
  split
  · next i resposta =>
      refine forall₂_append (forall₂_eraseIdx tarefas i) (beside _ fun task here => ?_)
      cases new task here with
      | segue found left =>
          obtain ⟨lido, read, leu⟩ := exists_beside tarefas found
          rw [List.getD_eq_getElem?_getD, read, Option.getD_some]
          exact fun id mem => leu id (emAberto_deixou left mem)
  · next i =>
      have none_new : nova = none := by
        cases nova with
        | none => rfl
        | some task => nomatch new task rfl
      rw [none_new, Option.toList_none, List.append_nil]
      exact forall₂_eraseIdx tarefas i
  · next starts drops =>
      have waiting : w.emEspera action = w.tasks := by
        cases action with
        | resume i resposta => exact absurd rfl (starts i resposta)
        | drop i => exact absurd rfl (drops i)
        | _ => rfl
      rw [waiting]
      exact forall₂_append tarefas (beside _ fun task here => leu_nova (new task here) starts)

/-- One step keeps every task and every notification going by what it has read. -/
theorem leiturasEmDia_passo (emDia : LeiturasEmDia s lidos) (acao : Servidor.Acao) :
    LeiturasEmDia (s.passo amb acao) (anotarLeituras lidos s acao (s.passo amb acao)) := by
  cases acao with
  | agir action =>
      by_cases notification : ∃ notice, action = .updatePaymentWebhook notice
      · obtain ⟨notice, rfl⟩ := notification
        have none_new : lidoPelasTarefas lidos s.mundo (.updatePaymentWebhook notice) s.mundo =
            lidos := by
          simp [lidoPelasTarefas, World.emEspera]
        simp only [Servidor.passo, Servidor.lerAviso, anotarLeituras]
        split
        · next lido read =>
            rw [none_new]
            refine ⟨emDia.tarefas, fun other mem => ?_⟩
            rcases List.mem_append.mp mem with before | here
            · exact emDia.avisos other before
            · obtain rfl := List.mem_singleton.mp here
              unfold lerAviso at read
              split at read
              · exact absurd read throw_ne_ok
              · next primeira outras _ =>
                  have kept := pure_eq_ok_iff.mp read
                  split at kept
                  · cases kept
                  · next unpaid =>
                      obtain rfl := Option.some.inj kept
                      exact unpaid
        · rw [none_new]
          exact emDia
      · rw [Servidor.passo_agir (not_exists.mp notification)]
        exact ⟨forall₂_lidoPelasTarefas emDia.tarefas action, emDia.avisos⟩
  | gravarAviso k =>
      simp only [Servidor.passo, Servidor.gravarAviso, anotarLeituras]
      split
      · exact ⟨emDia.tarefas, fun lido mem => emDia.avisos lido (List.mem_of_mem_eraseIdx mem)⟩
      · exact emDia
  | largarAviso k =>
      exact ⟨emDia.tarefas, fun lido mem => emDia.avisos lido (List.mem_of_mem_eraseIdx mem)⟩

end Passo

/-- **Paid stays.**  From a server without requests, over any database and in any interleaving, a
run keeps what was paid for when no payment that a request writes on was paid since the request read
the database, and none it does not look at was paid then. -/
theorem pagoFica_run (amb : Ambiente) (db : Database) {acoes : List Servidor.Acao}
    (vale : EachStep (withHistory (Servidor.passo amb) anotarLeituras) LeituraVale
      (Servidor.aberto db, []) acoes) :
    EachStep (Servidor.passo amb)
      (fun s acao => PagoFica s.mundo.db (s.passo amb acao).mundo.db)
      (Servidor.aberto db) acoes := by
  have start : LeiturasEmDia (Servidor.aberto db) [] := ⟨.nil, fun _ mem => nomatch mem⟩
  have along : Always (withHistory (Servidor.passo amb) anotarLeituras)
      (fun sh => LeiturasEmDia sh.1 sh.2) (Servidor.aberto db, []) acoes :=
    always_of_step (P := fun sh : Servidor × List Database => LeiturasEmDia sh.1 sh.2)
      (fun _ acao emDia => leiturasEmDia_passo emDia acao) start acoes
  refine (eachStep_withHistory (Servidor.aberto db, [])).mp (eachStep_of_always ?_ along vale)
  intro sh acao emDia vale
  exact emDia.pagoFica vale

/-! ### Runs of one checkout over two payments -/

namespace Loja

/-- A ticket and a loose purchase of one person, charged together under the reference 103. -/
def doisPagamentos : List Action :=
  [inscricao 3 1000, compra 3 false 1000, .createCheckout ⟨3, 5, [7], [101]⟩,
    .resume 0 (resposta 1000 [] 500), .resume 0 (resposta 1000 [] 500),
    .resume 0 (resposta 1000 [] 500)]

/-- The house analyses, a round sees it wait, it is paid, a late refusal changes nothing, and the
panel refunds the purchase. -/
def pagosJuntos : List Servidor.Acao :=
  doisPagamentos.map .agir ++
    [.agir (aviso 103 .inAnalysis none), .gravarAviso 0, .agir (.reconciliar none),
      .agir (.resume 0 (resposta 1600 [cobranca .waiting 1200 none] 500)),
      .agir (.resume 0 (resposta 1600 [] 500)), .agir (aviso 103 .paid (some 15000)),
      .gravarAviso 0, .agir (aviso 103 .declined none), .gravarAviso 0,
      .agir (edicao 101 .refunded), .agir (.resume 1 (resposta 1700 [] 500))]

/-- The panel records that the purchase was paid, and the house declines the attempt. -/
def compraPagaERecusada : List Servidor.Acao :=
  doisPagamentos.map .agir ++
    [.agir (edicao 101 .paid), .agir (.resume 0 (resposta 1000 [] 500)),
      .agir (aviso 103 .declined none), .gravarAviso 0]

/-- A refusal reads, the payment is confirmed, and the refusal writes. -/
def recusaAtrasada : List Servidor.Acao :=
  doisPagamentos.map .agir ++
    [.agir (aviso 103 .declined none), .agir (aviso 103 .paid (some 15000)), .gravarAviso 1,
      .gravarAviso 0]

end Loja

instance (antes depois : Database) : Decidable (PagoFica antes depois) :=
  inferInstanceAs (Decidable (∀ p ∈ antes.payments, p.Paga →
    ∀ q ∈ depois.payments, q.id = p.id → q.status = .paid ∨ q.status = .refunded))

theorem pagoFica_run_pagosJuntos :
    EachStep (Servidor.passo Loja.ambiente)
      (fun s acao => PagoFica s.mundo.db (s.passo Loja.ambiente acao).mundo.db)
      (Servidor.aberto (Loja.aberta .pagbank 100 none).db) Loja.pagosJuntos :=
  pagoFica_run Loja.ambiente (Loja.aberta .pagbank 100 none).db (by decide +kernel)

/-- The purchase, paid outside, is written over because the ticket comes first. -/
theorem not_pagoFica_declined :
    ¬ EachStep (Servidor.passo Loja.ambiente)
      (fun s acao => PagoFica s.mundo.db (s.passo Loja.ambiente acao).mundo.db)
      (Servidor.aberto (Loja.aberta .pagbank 100 none).db) Loja.compraPagaERecusada := by
  decide +kernel

-- the same loss when the confirmation falls between the read and the writes of the refusal
example :
    ¬ EachStep (Servidor.passo Loja.ambiente)
      (fun s acao => PagoFica s.mundo.db (s.passo Loja.ambiente acao).mundo.db)
      (Servidor.aberto (Loja.aberta .pagbank 100 none).db) Loja.recusaAtrasada := by
  decide +kernel

end IccvBackend
