/-
Module: IccvBackend.Payment.Service
Purpose: `payment/payment.service.ts`: the notifications of a house, the edits of the panel and the
  refund.
Trusted boundary: human-reviewed spec
Main exports: filtroDaCasa, lerAviso, gravarAviso, updatePaymentWebhook,
  updatePaymentCheckoutWebhook, updatePaymentStatusTx, invalidarCheckouts, refundPaymentTx
-/
import IccvBackend.Event.Reactivation
import IccvBackend.Event.Registration
import IccvBackend.Gateways.Types
import IccvBackend.Payment.AmountCheck

namespace IccvBackend

open Lib

/-!
`updatePaymentStatus` and `refundPayment` read the payment first and write later: the edit may wait
for the upload of a receipt in between.  Each of them is a check of what was read, and the
transaction that writes.
-/

/-! ### Notifications -/

/-- From which house and credential a notification came. -/
structure EscopoDaCasa where
  provider : PaymentProvider
  configId : Id
  churchId : Id
deriving Repr, DecidableEq

/-- `filtroDaCasa`: a house only touches the checkouts of its own configuration; a checkout older
than the column is recognised by the church of the event. -/
def filtroDaCasa (db : Database) (escopo : Option EscopoDaCasa) (p : Payment)
    (c : PaymentCheckout) : Bool :=
  match escopo with
  | none => true
  | some escopo =>
      c.configId = some escopo.configId ||
        (c.configId = none && c.provider = escopo.provider &&
          db.churchOfTicket p = some escopo.churchId)

/-- The checkouts of a filter, each with its payment. -/
def Database.checkoutsWhere (db : Database) (selected : Payment → PaymentCheckout → Bool) :
    List (Payment × PaymentCheckout) :=
  db.payments.flatMap fun p => (p.checkouts.filter (selected p)).map fun c => (p, c)

/-- A payment notification, translated by the adapter. -/
structure PaymentNotice where
  referenceId : Id
  status : PaymentStatus
  method : PaymentMethod
  payload : Json
  escopo : Option EscopoDaCasa
  pagoEmCentavos : Option Nat
deriving Repr, DecidableEq

/-- The rows a notification is about. -/
def PaymentNotice.selects (notice : PaymentNotice) (db : Database) (p : Payment)
    (c : PaymentCheckout) : Bool :=
  c.referenceId = notice.referenceId && filtroDaCasa db notice.escopo p c

/-- The write of a status that came from a house. -/
def gatewayUpdate (status : PaymentStatus) (method : PaymentMethod) (payload : Json) :
    Database.PaymentUpdate :=
  { status := some status
    method := some method
    payload := some payload
    receivedFrom := some .system }

/-- What the transaction of a notification has read: its rows, the first of which decides for all of
them. -/
structure AvisoLido where
  notice : PaymentNotice
  primeira : Payment × PaymentCheckout
  outras : List (Payment × PaymentCheckout)

/-- The payments of the rows. -/
def AvisoLido.pagamentos (lido : AvisoLido) : List Payment :=
  (lido.primeira :: lido.outras).map Prod.fst

/-- `statusConferido`. -/
def AvisoLido.status (lido : AvisoLido) : PaymentStatus :=
  conferirValorPago lido.notice.status lido.notice.pagoEmCentavos
    lido.primeira.2.chargedAmountCents

/-- The read of `updatePaymentWebhook`; nothing is left to write when the first row is paid. -/
def lerAviso (db : Database) (notice : PaymentNotice) : Except Failure (Option AvisoLido) :=
  match db.checkoutsWhere (notice.selects db) with
  | [] => throw (notFound "Payment not found")
  | primeira :: outras =>
      -- idempotence
      pure (if primeira.1.status = .paid then none else some ⟨notice, primeira, outras⟩)

/-- The writes of `updatePaymentWebhook`, committed together. -/
def gravarAviso (db : Database) (lido : AvisoLido) : Database :=
  let written := db.updateManyPayments (fun p => p.id ∈ lido.pagamentos.map Payment.id)
    (gatewayUpdate lido.status lido.notice.method lido.notice.payload)
  -- the checkout closes when the money comes in, and only then
  if lido.status = .paid then
    written.updateManyCheckouts (lido.notice.selects written) .inactive
  else written

/-- `updatePaymentWebhook`, when nothing comes between its read and its writes. -/
def updatePaymentWebhook (db : Database) (notice : PaymentNotice) : Except Failure Database := do
  match ← lerAviso db notice with
  | none => pure db
  | some lido => pure (gravarAviso db lido)

/-- The three ends of a payment notification: nothing found, already paid, written. -/
theorem updatePaymentWebhook_cases (db : Database) (notice : PaymentNotice) :
    (db.checkoutsWhere (notice.selects db) = [] ∧
        updatePaymentWebhook db notice = .error (notFound "Payment not found")) ∨
      ∃ first rest, db.checkoutsWhere (notice.selects db) = first :: rest ∧
        ((first.1.status = .paid ∧ updatePaymentWebhook db notice = .ok db) ∨
          (first.1.status ≠ .paid ∧ ∃ status,
            status = conferirValorPago notice.status notice.pagoEmCentavos
              first.2.chargedAmountCents ∧
            ∃ written, written = db.updateManyPayments
                (fun p => p.id ∈ (first :: rest).map fun row => row.1.id)
                (gatewayUpdate status notice.method notice.payload) ∧
              updatePaymentWebhook db notice = .ok (if status = .paid then
                written.updateManyCheckouts (notice.selects written) .inactive else written))) := by
  unfold updatePaymentWebhook lerAviso
  cases found : db.checkoutsWhere (notice.selects db) with
  | nil => exact .inl ⟨rfl, rfl⟩
  | cons first rest =>
      refine .inr ⟨first, rest, rfl, ?_⟩
      by_cases paid : first.1.status = .paid
      · exact .inl ⟨paid, by simp only [paid, if_true]; rfl⟩
      · refine .inr ⟨paid, _, rfl, _, rfl, ?_⟩
        simp only [paid, if_false, gravarAviso, AvisoLido.pagamentos, List.map_map]
        rfl

/-- `updatePaymentCheckoutWebhook`. -/
def updatePaymentCheckoutWebhook (db : Database) (checkoutId : Id) (status : CheckoutStatus)
    (escopo : Option EscopoDaCasa) : Except Failure Database :=
  let selected := fun p c => c.checkoutId = checkoutId && filtroDaCasa db escopo p c
  if db.checkoutsWhere selected = [] then throw (notFound "Payment checkout not found")
  else pure (db.updateManyCheckouts selected status)

theorem updatePaymentCheckoutWebhook_ok {db db' : Database} {checkoutId : Id}
    {status : CheckoutStatus} {escopo : Option EscopoDaCasa}
    (ok : updatePaymentCheckoutWebhook db checkoutId status escopo = .ok db') :
    db' = db.updateManyCheckouts
      (fun p c => c.checkoutId = checkoutId && filtroDaCasa db escopo p c) status := by
  unfold updatePaymentCheckoutWebhook at ok
  dsimp only at ok
  split at ok
  · exact absurd ok throw_ne_ok
  · exact (pure_eq_ok_iff.mp ok).symm

/-! ### The panel -/

/-- `ENTRADAS_MANUAIS`. -/
def entradasManuais : List PaymentStatus := [.paid, .inAnalysis]

/-- `ehLancamentoManual`. -/
def ehLancamentoManual (anterior : PaymentStatus) (novo : Option PaymentStatus) : Bool :=
  novo.any fun novo => novo ≠ anterior && novo ∈ entradasManuais

/-- A receipt as it was uploaded. -/
structure ReceiptFile where
  mimetype : String
  url : String
deriving Repr, DecidableEq

/-- `UpdatePaymentStatusDto`; every field is optional. -/
structure UpdatePaymentStatusDto where
  status : Option PaymentStatus
  method : Option PaymentMethod
  receiptFile : Option ReceiptFile
  discountsAppliedId : Option Id
deriving Repr, DecidableEq

/-- `ACCEPTED_RECEIPT_MIME_TYPES`. -/
def acceptedReceiptMimeTypes : List String := ["image/png", "image/jpeg", "application/pdf"]

/-- The checks of `updatePaymentStatus` on the payment it reads. -/
def updatePaymentStatusCheck (db : Database) (paymentId : Id) (dto : UpdatePaymentStatusDto) :
    Except Failure Payment := do
  let payment ← orFail (db.payment? paymentId) (notFound "Payment not found")
  failIf (payment.status = .paid ∧ dto.status ≠ some .refunded)
    (badRequest "Não é possível alterar um pagamento já pago, exceto para reembolso")
  failIf (dto.receiptFile.any fun file => file.mimetype ∉ acceptedReceiptMimeTypes)
    (badRequest "O comprovante precisa ser PNG, JPG ou PDF")
  pure payment

/-- The payload written back: the one that was read, with a new receipt over it. -/
def payloadComComprovante (payload : Option Json) (file : Option ReceiptFile) : Json :=
  match file with
  | none => payload.getD []
  | some file =>
      ((payload.getD []).filter fun field =>
          field.1 ∉ ["comprovanteFileUrl", "comprovanteFileType"]) ++
        [("comprovanteFileUrl", file.url), ("comprovanteFileType", file.mimetype)]

/-- The nested update of the discount of the ticket's role registration. -/
def Database.setDiscount (db : Database) (p : Payment) (discountId : Id) :
    Except Failure Database :=
  match p.userId, p.eventId, p.roleRegistrationId with
  | some userId, some eventId, some roleId =>
      if (db.eventUserRole p).isSome && (db.catalogue.discount? discountId).isSome then
        pure (db.modifyRegistration userId eventId fun row =>
          { row with
            rolesRegistration := row.rolesRegistration.map fun held =>
              if held.roleRegistrationId = roleId then
                { held with discountId := some discountId }
              else held })
      else throw (internalServerError "Internal server error")
  | _, _, _ => throw (internalServerError "Internal server error")

/-- Leaving a status that frees stock takes the products again: the check that comes with it. -/
def reativarSePreciso (db : Database) (paymentId : Id) (status : Option PaymentStatus) :
    Except Failure Database :=
  if status.any PaymentStatus.liberaEstoque then pure db
  else do
    let reativacao ← reativarCompras db [paymentId]
    match reativacao.2.recusa with
    | some recusa =>
        failIf (reativacao.2.reativados = []) (badRequest recusa)
        pure reativacao.1
    | none => pure reativacao.1

/-- The `data` of the update. -/
def statusUpdate (lido : Payment) (dto : UpdatePaymentStatusDto) : Database.PaymentUpdate where
  status := dto.status
  method := dto.method
  receivedFrom := if ehLancamentoManual lido.status dto.status then some .external else none
  payload := some (payloadComComprovante lido.payload dto.receiptFile)

/-- The transaction of `updatePaymentStatus`, with the payment as it was read before. -/
def updatePaymentStatusTx (db : Database) (lido : Payment) (dto : UpdatePaymentStatusDto) :
    Except Failure Database := do
  let db ← reativarSePreciso db lido.id dto.status
  let atual ← orFail (db.payment? lido.id) (internalServerError "Internal server error")
  let db := db.updateManyPayments (fun p => p.id = lido.id) (statusUpdate lido dto)
  match dto.discountsAppliedId.filter fun _ => lido.roleRegistrationId.isSome with
  | some discountId => db.setDiscount atual discountId
  | none => pure db

/-- Before the write of the panel: nothing, or a reactivation that brought the payment back. -/
theorem reativarSePreciso_ok {db depois : Database} {paymentId : Id}
    {status : Option PaymentStatus} (ok : reativarSePreciso db paymentId status = .ok depois) :
    (status.any PaymentStatus.liberaEstoque = true ∧ depois = db) ∨
      status.any PaymentStatus.liberaEstoque = false ∧
        ∃ r, Reativou db [paymentId] depois r ∧
          ∀ p ∈ db.payments, p.id = paymentId → p.status.liberaEstoque = true →
            p.id ∈ r.reativados := by
  unfold reativarSePreciso at ok
  split at ok
  · next frees => exact .inl ⟨frees, (pure_eq_ok_iff.mp ok).symm⟩
  · next holds =>
      rw [bind_eq_ok_iff] at ok
      obtain ⟨⟨reativado, r⟩, reactivation, rest⟩ := ok
      have reativou := reativarCompras_spec reactivation
      refine .inr ⟨by simpa using holds, r, ?_, ?_⟩
      · cases reason : r.recusa with
        | none =>
            simp only [reason, pure_eq_ok_iff] at rest
            exact rest ▸ reativou
        | some recusa =>
            simp only [reason, bind_eq_ok_iff, pure_eq_ok_iff] at rest
            obtain ⟨_, _, same⟩ := rest
            exact same ▸ reativou
      · intro p mem this frees
        by_contra out
        have listed : p ∈ db.aReativar [paymentId] := mem_aReativar.mpr ⟨mem, by simp [this], frees⟩
        obtain ⟨recusa, reason⟩ := Option.isSome_iff_exists.mp (reativou.recusa p listed out)
        simp only [reason, bind_eq_ok_iff, failIf_eq_ok_iff] at rest
        obtain ⟨_, some_back, _⟩ := rest
        obtain ⟨id, back⟩ := List.exists_mem_of_ne_nil _ some_back
        obtain ⟨q, q_mem, same⟩ := reativou.reativados id back
        have q_id : q.id = paymentId := by simpa using (mem_aReativar.mp q_mem).2.1
        exact out (this.trans (q_id.symm.trans same) ▸ back)

theorem setDiscount_ok {db db' : Database} {p : Payment} {discountId : Id}
    (ok : db.setDiscount p discountId = .ok db') :
    db'.payments = db.payments ∧ db'.catalogue = db.catalogue := by
  unfold Database.setDiscount at ok
  split at ok
  · split at ok
    · rw [← pure_eq_ok_iff.mp ok]; exact ⟨rfl, rfl⟩
    · exact absurd ok throw_ne_ok
  · exact absurd ok throw_ne_ok

/-- The rows after the transaction of the panel: the reactivation, then one update. -/
theorem updatePaymentStatusTx_ok {db db' : Database} {lido : Payment}
    {dto : UpdatePaymentStatusDto} (ok : updatePaymentStatusTx db lido dto = .ok db') :
    ∃ reativado, reativarSePreciso db lido.id dto.status = .ok reativado ∧
      db'.payments = (reativado.updateManyPayments (fun p => p.id = lido.id)
        (statusUpdate lido dto)).payments ∧
      db'.catalogue = reativado.catalogue := by
  unfold updatePaymentStatusTx at ok
  simp only [bind_eq_ok_iff, orFail_eq_ok_iff] at ok
  obtain ⟨reativado, reactivation, atual, _, rest⟩ := ok
  refine ⟨reativado, reactivation, ?_⟩
  split at rest
  · exact setDiscount_ok rest
  · rw [← pure_eq_ok_iff.mp rest]; exact ⟨rfl, rfl⟩

/-- The second transaction of `updatePaymentStatus`: the active checkouts of the payment, on every
payment they cover. -/
def invalidarCheckouts (db : Database) (paymentId : Id) : Database :=
  let ids := (db.checkoutsWhere fun p c => p.id = paymentId && c.status = .active).map
    fun row => row.2.checkoutId
  db.updateManyCheckouts (fun _ c => c.checkoutId ∈ ids && c.status = .active) .inactive

/-- The check of `refundPayment`. -/
def refundPaymentCheck (db : Database) (paymentId : Id) : Except Failure Unit := do
  let payment ← orFail (db.payment? paymentId) (notFound "Payment not found")
  failIf (payment.status ≠ .paid) (badRequest "Only PAID payments can be refunded")

/-- The write of `refundPayment`. -/
def refundPaymentTx (db : Database) (paymentId : Id) : Except Failure Database := do
  let _ ← orFail (db.payment? paymentId) (internalServerError "Internal server error")
  pure (db.updateManyPayments (fun p => p.id = paymentId) { status := some .refunded })

theorem refundPaymentTx_ok {db db' : Database} {paymentId : Id}
    (ok : refundPaymentTx db paymentId = .ok db') :
    db' = db.updateManyPayments (fun p => p.id = paymentId) { status := some .refunded } := by
  simp only [refundPaymentTx, bind_eq_ok_iff, pure_eq_ok_iff] at ok
  obtain ⟨_, _, same⟩ := ok
  exact same.symm

end IccvBackend
