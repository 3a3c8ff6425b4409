/-
Module: IccvBackend.Proofs.SpreadsheetReading
Purpose: What is known after the lines of a spreadsheet of tithes are read: whose each key is, who
  became a member and which tithes were accepted.
Trusted boundary: none
Main exports: DonoDoDizimo, chave_inj, LivroCaixa.aceita, LivroCaixa.aceitos, entrar, Leu, leu_foldl
-/
import IccvBackend.Proofs.SpreadsheetSums

namespace IccvBackend

open Lib

/-! ### Keys -/

/-- Whose a tithe is: a person, or a name without one. -/
inductive DonoDoDizimo where
  | pessoa (userId : Id)
  | nome (normalizado : String)
deriving Repr, DecidableEq

namespace DonoDoDizimo

def quem : DonoDoDizimo → String
  | .pessoa userId => toString userId
  | .nome normalizado => s!"anonimo:{normalizado}"

def userId : DonoDoDizimo → Option Id
  | .pessoa userId => some userId
  | .nome _ => none

/-- The external id of a month. -/
def chave (dono : DonoDoDizimo) (ano mes : Nat) : String :=
  s!"planilha:{dono.quem}:{ano}-{numeroDoMes mes}"

end DonoDoDizimo

theorem quem_inj {dono outro : DonoDoDizimo} (same : dono.quem = outro.quem) : dono = outro := by
  have digits : ∀ (n : Nat) (texto : String), toString n ≠ s!"anonimo:{texto}" := by
    intro n texto same
    have heads := congrArg String.toList same
    simp only [toString, String.toList_append, Nat.toList_repr] at heads
    have first : 'a' ∈ Nat.toDigits 10 n := by
      rw [heads]
      simp
    exact absurd (Nat.isDigit_of_mem_toDigits (by decide) (by decide) first) (by decide)
  cases dono with
  | pessoa userId =>
      cases outro with
      | pessoa other =>
          have texts := congrArg String.toList same
          simp only [DonoDoDizimo.quem, toString, Nat.toList_repr] at texts
          have read := congrArg (fun digits => Nat.ofDigitChars 10 digits 0) texts
          rw [Nat.ofDigitChars_ten_toDigits, Nat.ofDigitChars_ten_toDigits] at read
          rw [read]
      | nome texto => exact absurd same (digits userId texto)
  | nome texto =>
      cases outro with
      | pessoa other => exact absurd same.symm (digits other texto)
      | nome other =>
          have texts := congrArg String.toList same
          simp only [DonoDoDizimo.quem, toString, String.toList_append] at texts
          rw [String.toList_injective (List.append_cancel_left texts)]

/-- The key of a month names its owner and the month. -/
theorem chave_inj {dono outro : DonoDoDizimo} {ano i j : Nat} (i_month : i < 12) (j_month : j < 12)
    (same : dono.chave ano i = outro.chave ano j) : dono = outro ∧ i = j := by
  have two : ∀ i < 12, (numeroDoMes i).toList.length = 2 := by decide
  have months : ∀ i < 12, ∀ j < 12, numeroDoMes i = numeroDoMes j → i = j := by decide
  have texts := congrArg String.toList same
  simp only [DonoDoDizimo.chave, toString, String.toList_append] at texts
  obtain ⟨fronts, month⟩ := List.append_inj' texts ((two i i_month).trans (two j j_month).symm)
  have owner := List.append_cancel_left (List.append_cancel_right (List.append_cancel_right
    (List.append_cancel_right fronts)))
  exact ⟨quem_inj (String.toList_injective owner), months i i_month j j_month
    (String.toList_injective month)⟩

/-! ### Who is accepted -/

section Leitura

variable (normalizar : String → String) (churchId : Id) (ano : Nat)

def LinhaDaPlanilha.dono (linha : LinhaDaPlanilha) : DonoDoDizimo :=
  match linha.userId with
  | some userId => .pessoa userId
  | none => .nome (normalizar linha.nome)

namespace LivroCaixa

variable (db : LivroCaixa)

/-- A line without a person, or of one who is not a member of another church. -/
def aceita (linha : LinhaDaPlanilha) : Bool :=
  match linha.userId with
  | none => true
  | some userId => (lookup Membro.id userId db.membros).any fun m =>
      m.memberChurchId = none || m.memberChurchId = some churchId

/-- The tithes of the accepted lines, in their order. -/
def aceitos (linhas : List LinhaDaPlanilha) : List Dizimo :=
  (linhas.filter (db.aceita churchId)).flatMap fun linha =>
    linha.dizimos (linha.dono normalizar).quem linha.userId ano

end LivroCaixa

/-- Who the lines name becomes a member, if of no church yet. -/
def entrar (linhas : List LinhaDaPlanilha) (m : Membro) : Membro :=
  if m.memberChurchId = none ∧ (linhas.any fun linha => linha.userId = some m.id) = true then
    { m with memberChurchId := some churchId }
  else m

variable {normalizar churchId ano} {db : LivroCaixa} {linhas : List LinhaDaPlanilha}
  {linha : LinhaDaPlanilha} {m : Membro}

@[simp] theorem entrar_id : (entrar churchId linhas m).id = m.id := by
  unfold entrar
  split <;> rfl

/-- One line more. -/
theorem entrar_append (linhas : List LinhaDaPlanilha) (linha : LinhaDaPlanilha) (m : Membro) :
    entrar churchId (linhas ++ [linha]) m =
      if linha.userId = some m.id ∧ (entrar churchId linhas m).memberChurchId = none then
        { entrar churchId linhas m with memberChurchId := some churchId }
      else entrar churchId linhas m := by
  unfold entrar
  simp only [List.any_append, List.any_cons, List.any_nil, Bool.or_false, Bool.or_eq_true,
    decide_eq_true_eq]
  by_cases none_yet : m.memberChurchId = none
  · by_cases before : (linhas.any fun linha => linha.userId = some m.id) = true
    · simp [none_yet, before]
    · by_cases now : linha.userId = some m.id
      · simp [none_yet, before, now]
      · simp [none_yet, before, now]
  · simp [none_yet]

theorem entrar_of_some {igreja : Id} (is : m.memberChurchId = some igreja) :
    entrar churchId linhas m = m := by
  unfold entrar
  rw [if_neg]
  simp [is]

/-- Whoever has a church after the lines had it before, or has this one. -/
theorem memberChurchId_entrar {igreja : Id}
    (is : (entrar churchId linhas m).memberChurchId = some igreja) :
    m.memberChurchId = some igreja ∨ (m.memberChurchId = none ∧ igreja = churchId) := by
  unfold entrar at is
  split at is
  · next new => exact .inr ⟨new.1, (Option.some.inj is).symm⟩
  · exact .inl is

theorem lookup_entrar (userId : Id) (membros : List Membro) :
    lookup Membro.id userId (membros.map (entrar churchId linhas)) =
      (lookup Membro.id userId membros).map (entrar churchId linhas) := by
  unfold lookup
  rw [List.find?_map]
  congr 2
  funext m
  simp

/-! ### Reading the lines -/

/-- What is known after some lines. -/
structure Leu (normalizar : String → String) (churchId : Id) (ano : Nat) (db : LivroCaixa)
    (linhas : List LinhaDaPlanilha) (s : LeituraDaPlanilha) : Prop where
  db_eq : s.db = { db with membros := db.membros.map (entrar churchId linhas) }
  pessoas : ∀ userId, s.pessoas userId =
    ((lookup Membro.id userId db.membros).map (entrar churchId linhas)).map Membro.memberChurchId
  porChave : s.porChave = (db.aceitos normalizar churchId ano linhas).foldl juntarDizimo []

theorem aceitos_append (linhas : List LinhaDaPlanilha) (linha : LinhaDaPlanilha) :
    db.aceitos normalizar churchId ano (linhas ++ [linha]) =
      db.aceitos normalizar churchId ano linhas ++
        if db.aceita churchId linha then
          linha.dizimos (linha.dono normalizar).quem linha.userId ano
        else [] := by
  unfold LivroCaixa.aceitos
  rw [List.filter_append, List.flatMap_append]
  congr 1
  cases accepted : db.aceita churchId linha with
  | true => simp [accepted]
  | false => simp [accepted]

/-- A line that changes no membership. -/
theorem entrar_igual (same : ∀ m ∈ db.membros, linha.userId = some m.id →
      (entrar churchId linhas m).memberChurchId ≠ none) :
    ∀ m ∈ db.membros, entrar churchId (linhas ++ [linha]) m = entrar churchId linhas m := by
  intro m mem
  rw [entrar_append, if_neg]
  rintro ⟨named, empty⟩
  exact same m mem named empty

theorem leu_append_igual {s : LeituraDaPlanilha} (leu : Leu normalizar churchId ano db linhas s)
    (same : ∀ m ∈ db.membros, entrar churchId (linhas ++ [linha]) m = entrar churchId linhas m)
    {s' : LeituraDaPlanilha} (db_eq : s'.db = s.db) (pessoas : s'.pessoas = s.pessoas)
    (porChave : s'.porChave = (if db.aceita churchId linha then
        linha.dizimos (linha.dono normalizar).quem linha.userId ano else []).foldl juntarDizimo
          s.porChave) :
    Leu normalizar churchId ano db (linhas ++ [linha]) s' where
  db_eq := by
    rw [db_eq, leu.db_eq, List.map_congr_left same]
  pessoas := by
    intro userId
    rw [pessoas, leu.pessoas]
    cases found : lookup Membro.id userId db.membros with
    | none => rfl
    | some m => simp only [Option.map_some, same m (lookup_mem found)]
  porChave := by
    rw [porChave, leu.porChave, aceitos_append, List.foldl_append]

/-- A line that is passed over. -/
theorem leu_ignorar {s : LeituraDaPlanilha} (leu : Leu normalizar churchId ano db linhas s)
    (same : ∀ m ∈ db.membros, entrar churchId (linhas ++ [linha]) m = entrar churchId linhas m)
    (refused : db.aceita churchId linha = false) (motivo : String) :
    Leu normalizar churchId ano db (linhas ++ [linha]) (s.ignorar linha motivo) := by
  apply leu_append_igual leu same
  · rfl
  · rfl
  · rw [refused]
    rfl

/-- A line of who is already where the tithe goes. -/
theorem leu_somarMeses {s : LeituraDaPlanilha} (leu : Leu normalizar churchId ano db linhas s)
    (same : ∀ m ∈ db.membros, entrar churchId (linhas ++ [linha]) m = entrar churchId linhas m)
    (accepted : db.aceita churchId linha = true) :
    Leu normalizar churchId ano db (linhas ++ [linha])
      (s.somarMeses linha (linha.dono normalizar).quem linha.userId ano) := by
  apply leu_append_igual leu same
  · rfl
  · rfl
  · rw [if_pos accepted]
    rfl

/-- `tornarMembro` finds who is of no church, and marks them. -/
theorem tornarMembro_entrar
    (found : lookup Membro.id m.id db.membros = some m) (named : linha.userId = some m.id)
    (empty : (entrar churchId linhas m).memberChurchId = none) :
    ({ db with membros := db.membros.map (entrar churchId linhas) } : LivroCaixa).tornarMembro
        churchId m.id =
      .ok { db with membros := db.membros.map (entrar churchId (linhas ++ [linha])) } := by
  unfold LivroCaixa.tornarMembro
  have some_free : ((db.membros.map (entrar churchId linhas)).all fun m' =>
      m'.id ≠ m.id || m'.memberChurchId.isSome) = false := by
    rw [List.all_eq_false]
    refine ⟨_, List.mem_map_of_mem (lookup_mem found), ?_⟩
    simp [empty]
  have marked : (db.membros.map (entrar churchId linhas)).map (fun m' =>
      if m'.id = m.id && m'.memberChurchId.isNone then { m' with memberChurchId := some churchId }
      else m') = db.membros.map (entrar churchId (linhas ++ [linha])) := by
    rw [List.map_map]
    apply List.map_congr_left
    intro m' _
    change (if ((entrar churchId linhas m').id = m.id &&
      (entrar churchId linhas m').memberChurchId.isNone) = true then _ else _) = _
    rw [entrar_append, named, entrar_id]
    by_cases same : m'.id = m.id
    · simp [same]
    · simp [same, Ne.symm same]
  simp only [some_free, failIf, marked]
  rfl

/-- A line of who becomes a member with it. -/
theorem leu_entrou {s : LeituraDaPlanilha}
    (leu : Leu normalizar churchId ano db linhas s)
    (found : lookup Membro.id m.id db.membros = some m) (named : linha.userId = some m.id)
    (empty : (entrar churchId linhas m).memberChurchId = none) (novosMembros : Nat) :
    Leu normalizar churchId ano db (linhas ++ [linha])
      (({ s with
          db := { db with membros := db.membros.map (entrar churchId (linhas ++ [linha])) }
          pessoas := Function.update s.pessoas m.id (some (some churchId))
          novosMembros := novosMembros } : LeituraDaPlanilha).somarMeses linha
            (linha.dono normalizar).quem linha.userId ano) where
  db_eq := rfl
  pessoas := by
    intro userId
    change Function.update s.pessoas m.id (some (some churchId)) userId = _
    by_cases here : userId = m.id
    · subst here
      rw [Function.update_self, found]
      simp [entrar_append, named, empty]
    · rw [Function.update_of_ne here, leu.pessoas]
      cases other : lookup Membro.id userId db.membros with
      | none => rfl
      | some m' =>
          have apart : m.id ≠ m'.id := by
            rw [lookup_key other]
            exact Ne.symm here
          simp only [Option.map_some, entrar_append, named, Option.some.injEq, apart, false_and,
            if_false]
  porChave := by
    have free : m.memberChurchId = none := by
      cases is : m.memberChurchId with
      | none => rfl
      | some igreja =>
          rw [entrar_of_some is, is] at empty
          cases empty
    have accepted : db.aceita churchId linha = true := by
      rw [LivroCaixa.aceita, named]
      simp [found, free]
    rw [aceitos_append, if_pos accepted, List.foldl_append, ← leu.porChave]
    rfl

/-- The line of a member of this church, old or new. -/
theorem aceita_daqui (found : lookup Membro.id m.id db.membros = some m)
    (named : linha.userId = some m.id)
    (church : (entrar churchId linhas m).memberChurchId = some churchId) :
    db.aceita churchId linha = true := by
  rw [LivroCaixa.aceita, named]
  rcases memberChurchId_entrar church with was | ⟨was, _⟩
  · simp [found, was]
  · simp [found, was]

/-- The line of a member of another church. -/
theorem aceita_de_outra (found : lookup Membro.id m.id db.membros = some m)
    (named : linha.userId = some m.id) {igreja : Id}
    (church : (entrar churchId linhas m).memberChurchId = some igreja) (other : igreja ≠ churchId) :
    db.aceita churchId linha = false := by
  rw [LivroCaixa.aceita, named]
  rcases memberChurchId_entrar church with was | ⟨_, same⟩
  · simp [found, was, other]
  · exact absurd same other

theorem leu_lerLinha (ids : (db.membros.map Membro.id).Nodup) {s : LeituraDaPlanilha}
    (leu : Leu normalizar churchId ano db linhas s) (linha : LinhaDaPlanilha) :
    Leu normalizar churchId ano db (linhas ++ [linha])
      (s.lerLinha normalizar churchId ano linha) := by
  unfold LeituraDaPlanilha.lerLinha
  cases named : linha.userId with
  | none =>
      have same : ∀ m ∈ db.membros,
          entrar churchId (linhas ++ [linha]) m = entrar churchId linhas m := by
        apply entrar_igual
        intro m _ absent
        rw [named] at absent
        cases absent
      have accepted : db.aceita churchId linha = true := by rw [LivroCaixa.aceita, named]
      have somou := leu_somarMeses leu same accepted
      rw [LinhaDaPlanilha.dono, named] at somou
      exact somou
  | some userId =>
      have only : ∀ m' ∈ db.membros, linha.userId = some m'.id →
          lookup Membro.id userId db.membros = some m' := by
        intro m' mem is
        rw [named] at is
        exact (lookup_eq_some_iff ids).mpr ⟨mem, (Option.some.inj is).symm⟩
      simp only [leu.pessoas]
      cases found : lookup Membro.id userId db.membros with
      | none =>
          apply leu_ignorar leu
          · apply entrar_igual
            intro m mem is
            rw [only m mem is] at found
            cases found
          · rw [LivroCaixa.aceita, named]
            simp [found]
      | some m =>
          have m_id : m.id = userId := lookup_key found
          subst m_id
          simp only [Option.map_some]
          cases church : (entrar churchId linhas m).memberChurchId with
          | some igreja =>
              have same : ∀ m' ∈ db.membros,
                  entrar churchId (linhas ++ [linha]) m' = entrar churchId linhas m' := by
                apply entrar_igual
                intro m' mem is
                rw [only m' mem is] at found
                cases found
                rw [church]
                exact Option.some_ne_none _
              by_cases here : igreja = churchId
              · have accepted := aceita_daqui found named (church.trans (congrArg some here))
                have somou := leu_somarMeses leu same accepted
                rw [LinhaDaPlanilha.dono, named] at somou
                rw [if_pos (congrArg some here)]
                exact somou
              · have refused := aceita_de_outra found named church here
                rw [if_neg (fun same => here (Option.some.inj same))]
                exact leu_ignorar leu same refused _
          | none =>
              have entrou := leu_entrou leu found named church (s.novosMembros + 1)
              rw [LinhaDaPlanilha.dono, named] at entrou
              simp only [reduceCtorEq, if_false, Option.isSome_none, Bool.false_eq_true, leu.db_eq,
                tornarMembro_entrar found named church]
              exact entrou

/-- Everything read. -/
theorem leu_foldl (ids : (db.membros.map Membro.id).Nodup) (linhas : List LinhaDaPlanilha)
    (novosMembros : Nat) (ignorados : List Ignorado) :
    Leu normalizar churchId ano db linhas
      (linhas.foldl (LeituraDaPlanilha.lerLinha normalizar churchId ano)
        { db := db
          pessoas := fun id => (lookup Membro.id id db.membros).map Membro.memberChurchId
          porChave := []
          novosMembros := novosMembros
          ignorados := ignorados }) := by
  induction linhas using List.reverseRecOn with
  | nil =>
      have nobody : entrar churchId [] = id := by
        funext m
        simp [entrar]
      constructor
      · rw [nobody, List.map_id]
        rfl
      · intro userId
        rw [nobody, Option.map_id]
        rfl
      · rfl
  | append_singleton linhas linha ih =>
      rw [List.foldl_append, List.foldl_cons, List.foldl_nil]
      exact leu_lerLinha ids ih linha

end Leitura

end IccvBackend
