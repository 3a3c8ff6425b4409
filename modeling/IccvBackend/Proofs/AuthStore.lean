/-
Module: IccvBackend.Proofs.AuthStore
Purpose: The table of WhatsApp credentials and keys is a map for each church, in every run over keys
  that their text tells apart, and only then.
Trusted boundary: none
Main exports: Guardado, AuthStore.Refina, AuthStore.refina_iff
-/
import IccvBackend.Lib.JsonText
import IccvBackend.Whatsapp.AuthStore
import Mathlib.Data.Set.Function

namespace IccvBackend

open Lib

/-- What the store is for: the credentials of each church, and its keys by type and id. -/
structure Guardado (V : Type*) where
  creds : Id → Option V
  chaves : Id → String × String → Option V

namespace AuthStore

variable {V : Type*} {json : BufferJSON V} {db : AuthStore} {g : Guardado V} {c : Id}
  {P : Set (String × String)}

/-- The same statement on the maps. -/
def noMapa (json : BufferJSON V) (g : Guardado V) : Acao V → Guardado V
  | .set churchId par valor =>
      let valor := if json.verdadeiro valor then some valor else none
      let chaves := Function.update (g.chaves churchId) par valor
      { g with chaves := Function.update g.chaves churchId chaves }
  | .saveCreds churchId creds => { g with creds := Function.update g.creds churchId (some creds) }
  | .clear churchId =>
      { creds := Function.update g.creds churchId none
        chaves := Function.update g.chaves churchId fun _ => none }

/-- A run with the maps it stands for beside the table. -/
def comMapa (json : BufferJSON V) : AuthStore × Guardado V → Acao V → AuthStore × Guardado V :=
  withHistory (agir json) fun g _ a _ => noMapa json g a

def inicial : AuthStore × Guardado V := ([], ⟨fun _ => none, fun _ _ => none⟩)

/-- Everything the store answers is what the maps say: the keys, the credentials, and which churches
have a number, asked one by one or all together. -/
structure Refina (json : BufferJSON V) (P : Set (String × String)) (sg : AuthStore × Guardado V) :
    Prop where
  get : ∀ c tipo ids, (∀ id ∈ ids, (tipo, id) ∈ P) →
    get json sg.1 c tipo ids = ids.filterMap fun id =>
      (sg.2.chaves c (tipo, id)).map fun valor => (id, desempacotar json tipo valor)
  creds : ∀ c, creds json sg.1 c = ((sg.2.creds c).filter json.verdadeiro).getD json.initAuthCreds
  sessao : ∀ c, hasStoredCredentials json sg.1 c =
    (sg.2.creds c).any fun creds => json.verdadeiro creds && json.registered creds
  todas : ∀ c, c ∈ churchIdsComSessao json sg.1 ↔ hasStoredCredentials json sg.1 c

/-- The statement is about keys of `P`. -/
def Acao.Usa (P : Set (String × String)) : Acao V → Prop
  | .set _ par _ => par ∈ P
  | _ => True

/-! ### The invariant -/

/-- The row a value is kept in. -/
def linhaDe (json : BufferJSON V) (c : Id) (id : String) (valor : V) : WhatsappAuth :=
  ⟨c, id, json.stringify valor⟩

structure Espelha (json : BufferJSON V) (P : Set (String × String)) (sg : AuthStore × Guardado V) :
    Prop where
  uma : (sg.1.map WhatsappAuth.chave).Nodup
  chaves : ∀ c, ∀ par ∈ P,
    linha? sg.1 c (chaveDe par) = (sg.2.chaves c par).map (linhaDe json c (chaveDe par))
  creds : ∀ c, linha? sg.1 c chaveCredenciais =
    (sg.2.creds c).map (linhaDe json c chaveCredenciais)

/-- A key of the Signal is never that of the credentials. -/
theorem chaveDe_ne (par : String × String) : chaveDe par ≠ chaveCredenciais := by
  intro same
  have dash : '-' ∈ (chaveDe par).toList := by simp [chaveDe, String.toList_append]
  rw [same] at dash
  exact absurd dash (by decide)

theorem linha?_gravar (c c' : Id) (id id' : String) (valor : V) :
    linha? (gravar json db c id valor) c' id' =
      if c' = c ∧ id' = id then some (linhaDe json c id valor) else linha? db c' id' := by
  unfold linha? gravar
  rw [lookup_upsert]
  simp only [WhatsappAuth.chave, Prod.mk.injEq, linhaDe]

theorem linha?_apagar (c c' : Id) (id id' : String) :
    linha? (apagar db c id) c' id' = if c' = c ∧ id' = id then none else linha? db c' id' := by
  unfold linha? apagar
  rw [lookup_deleteKey]
  simp only [Prod.mk.injEq]

theorem linha?_clear (c c' : Id) (id : String) :
    linha? (clearDatabaseAuthState db c) c' id = if c' = c then none else linha? db c' id := by
  have kept : lookup WhatsappAuth.chave (c', id)
      (db.filter fun linha => decide (linha.chave.1 ≠ c)) = _ :=
    lookup_filter_key (fun chave : Id × String => decide (chave.1 ≠ c)) db (c', id)
  unfold linha? clearDatabaseAuthState
  refine kept.trans ?_
  by_cases same : c' = c <;> simp [same]

theorem Espelha.set (mirror : Espelha json P (db, g)) (told : P.InjOn chaveDe)
    {par : String × String} (mem : par ∈ P) (c : Id) (valor : V) :
    Espelha json P (comMapa json (db, g) (.set c par valor)) := by
  have same_key (other : String × String) (mem' : other ∈ P) :
      chaveDe other = chaveDe par ↔ other = par := ⟨told mem' mem, congrArg chaveDe⟩
  have row (c' : Id) (id : String) :
      linha? (AuthStore.set json db c par valor) c' id =
        if c' = c ∧ id = chaveDe par then
          if json.verdadeiro valor then some (linhaDe json c (chaveDe par) valor) else none
        else linha? db c' id := by
    unfold AuthStore.set
    split
    · exact linha?_gravar c c' (chaveDe par) id valor
    · exact linha?_apagar c c' (chaveDe par) id
  refine ⟨?_, fun c' other mem' => ?_, fun c' => ?_⟩
  · show ((AuthStore.set json db c par valor).map _).Nodup
    unfold AuthStore.set
    split
    · exact nodup_upsert _ mirror.uma
    · exact mirror.uma.sublist (List.filter_sublist.map _)
  · show linha? (AuthStore.set json db c par valor) c' (chaveDe other) = _
    rw [row, mirror.chaves c' other mem']
    simp only [comMapa, withHistory, noMapa, same_key other mem']
    by_cases church : c' = c
    · subst church
      by_cases key : other = par
      · subst key
        cases json.verdadeiro valor <;> simp
      · simp [key]
    · simp [church]
  · show linha? (AuthStore.set json db c par valor) c' chaveCredenciais = _
    rw [row, if_neg fun h => chaveDe_ne par h.2.symm]
    exact mirror.creds c'

theorem Espelha.saveCreds (mirror : Espelha json P (db, g)) (c : Id) (valor : V) :
    Espelha json P (comMapa json (db, g) (.saveCreds c valor)) := by
  refine ⟨nodup_upsert _ mirror.uma, fun c' other mem => ?_, fun c' => ?_⟩
  · show linha? (gravar json db c chaveCredenciais valor) c' (chaveDe other) = _
    rw [linha?_gravar, if_neg fun h => chaveDe_ne other h.2]
    exact mirror.chaves c' other mem
  · show linha? (gravar json db c chaveCredenciais valor) c' chaveCredenciais = _
    rw [linha?_gravar, mirror.creds c']
    by_cases church : c' = c
    · subst church
      simp [comMapa, withHistory, noMapa]
    · simp [comMapa, withHistory, noMapa, church]

theorem Espelha.clear (mirror : Espelha json P (db, g)) (c : Id) :
    Espelha json P (comMapa json (db, g) (.clear c)) := by
  refine ⟨mirror.uma.sublist (List.filter_sublist.map _), fun c' other mem => ?_, fun c' => ?_⟩
  · show linha? (clearDatabaseAuthState db c) c' (chaveDe other) = _
    rw [linha?_clear, mirror.chaves c' other mem]
    by_cases church : c' = c
    · subst church
      simp [comMapa, withHistory, noMapa]
    · simp [comMapa, withHistory, noMapa, church]
  · show linha? (clearDatabaseAuthState db c) c' chaveCredenciais = _
    rw [linha?_clear, mirror.creds c']
    by_cases church : c' = c
    · subst church
      simp [comMapa, withHistory, noMapa]
    · simp [comMapa, withHistory, noMapa, church]

theorem espelha_inicial : Espelha json P inicial := ⟨List.nodup_nil, fun _ _ _ => rfl, fun _ => rfl⟩

/-! ### What the store answers -/

/-- The search of `get` among the rows of one query is the lookup of the key. -/
theorem find?_linhas (db : AuthStore) (c : Id) {chaves : List String} {chave : String}
    (asked : chave ∈ chaves) :
    (List.filter (fun linha : WhatsappAuth => linha.churchId = c ∧ linha.id ∈ chaves) db).find?
      (fun linha => linha.id = chave) = linha? db c chave := by
  rw [List.find?_filter]
  unfold linha? lookup
  congr 1
  funext linha
  refine decide_eq_decide.mpr ?_
  rw [decide_eq_true_eq, decide_eq_true_eq, WhatsappAuth.chave, Prod.mk.injEq]
  exact ⟨fun h => ⟨h.1.1, h.2⟩, fun h => ⟨⟨h.1, h.2 ▸ asked⟩, h.2⟩⟩

/-- `keys.get` key by key. -/
theorem get_eq (json : BufferJSON V) (db : AuthStore) (c : Id) (tipo : String)
    (ids : List String) :
    get json db c tipo ids = ids.filterMap fun id =>
      ((linha? db c (chaveDe (tipo, id))).filter fun linha => linha.data ≠ "").map fun linha =>
        (id, desempacotar json tipo (json.parse linha.data)) := by
  unfold AuthStore.get
  refine List.filterMap_congr fun id mem => ?_
  have asked : chaveDe (tipo, id) ∈ ids.map fun id => chaveDe (tipo, id) :=
    List.mem_map.mpr ⟨id, mem, rfl⟩
  rw [find?_linhas db c asked]

theorem Espelha.refina (fiel : json.Fiel) {sg : AuthStore × Guardado V}
    (mirror : Espelha json P sg) : Refina json P sg where
  get c tipo ids inside := by
    rw [get_eq]
    refine List.filterMap_congr fun id mem => ?_
    rw [mirror.chaves c (tipo, id) (inside id mem)]
    cases sg.2.chaves c (tipo, id) with
    | none => rfl
    | some valor => simp [linhaDe, Option.filter, fiel.escreve, fiel.volta]
  creds c := by
    unfold AuthStore.creds ler
    rw [mirror.creds c]
    cases sg.2.creds c with
    | none => rfl
    | some valor => simp [linhaDe, fiel.volta]
  sessao c := by
    unfold hasStoredCredentials
    rw [mirror.creds c]
    cases sg.2.creds c with
    | none => rfl
    | some valor => simp [linhaEstaPareada, linhaDe, fiel.volta]
  todas c := by
    unfold churchIdsComSessao hasStoredCredentials linha?
    constructor
    · intro mem
      obtain ⟨linha, here, rfl⟩ := List.mem_map.mp mem
      obtain ⟨of, paired⟩ := List.mem_filter.mp here
      obtain ⟨row, id⟩ := List.mem_filter.mp of
      have id := of_decide_eq_true id
      rw [(lookup_eq_some_iff mirror.uma).mpr ⟨row, by rw [WhatsappAuth.chave, id]⟩]
      exact paired
    · intro paired
      cases found : lookup WhatsappAuth.chave (c, chaveCredenciais) sg.1 with
      | none =>
          rw [found] at paired
          cases paired
      | some linha =>
          rw [found] at paired
          have key := lookup_key found
          refine List.mem_map.mpr ⟨linha, List.mem_filter.mpr ⟨?_, paired⟩, congrArg Prod.fst key⟩
          exact List.mem_filter.mpr ⟨lookup_mem found,
            decide_eq_true (congrArg Prod.snd key)⟩

/-! ### Whole runs -/

theorem espelha_run (told : P.InjOn chaveDe) {sg : AuthStore × Guardado V} {acoes : List (Acao V)}
    (mirror : Espelha json P sg) (inside : ∀ a ∈ acoes, a.Usa P) :
    Always (comMapa json) (Espelha json P) sg acoes := by
  refine always_of_eachStep (G := fun _ a => Acao.Usa P a) (fun sg a mirror used => ?_) mirror
    (eachStep_of_mem inside)
  cases a with
  | set c par valor => exact mirror.set told used c valor
  | saveCreds c valor => exact mirror.saveCreds c valor
  | clear c => exact mirror.clear c

/-- In every run over the keys of `P` the store answers what the maps say, exactly when the text of
a key tells those of `P` apart. -/
theorem refina_iff (json : BufferJSON V) (fiel : json.Fiel) (P : Set (String × String))
    (algum : ∃ valor, json.verdadeiro valor) :
    (∀ acoes : List (Acao V), (∀ a ∈ acoes, a.Usa P) →
      Always (comMapa json) (Refina json P) inicial acoes) ↔ P.InjOn chaveDe := by
  constructor
  · intro all p mem q mem' same
    obtain ⟨valor, truthy⟩ := algum
    by_contra apart
    have run := (all [.set 0 p valor] (by simpa [Acao.Usa] using mem)).last
    have answer := run.get 0 q.1 [q.2] (by simpa using mem')
    -- nothing was written under the second key, and the store has a value for it
    have nothing : (noMapa json inicial.2 (.set 0 p valor)).chaves 0 (q.1, q.2) = none := by
      simp [noMapa, inicial, Ne.symm apart]
    have row : linha? (AuthStore.set json [] 0 p valor) 0 (chaveDe (q.1, q.2)) =
        some (linhaDe json 0 (chaveDe p) valor) := by
      rw [AuthStore.set, if_pos truthy, linha?_gravar, if_pos ⟨rfl, same.symm⟩]
    rw [get_eq] at answer
    change [q.2].filterMap (fun id => ((linha? (AuthStore.set json [] 0 p valor) 0
      (chaveDe (q.1, id))).filter _).map _) = [q.2].filterMap (fun id =>
        ((noMapa json inicial.2 (.set 0 p valor)).chaves 0 (q.1, id)).map _) at answer
    simp [row, nothing, linhaDe, Option.filter, fiel.escreve] at answer
  · intro told acoes inside
    exact (espelha_run told espelha_inicial inside).mono fun _ mirror => mirror.refina fiel

/-- Types of which none is another followed by a dash are enough, whatever the ids. -/
theorem injOn_chaveDe {tipos : Set String}
    (apart : ∀ a ∈ tipos, ∀ b ∈ tipos, ∀ resto, b.toList ≠ a.toList ++ '-' :: resto) :
    Set.InjOn chaveDe {par | par.1 ∈ tipos} := by
  rintro ⟨a, x⟩ mem ⟨b, y⟩ mem' same
  have chars := congrArg String.toList same
  simp only [chaveDe, String.toList_append, List.append_assoc] at chars
  rcases List.append_eq_append_iff.mp chars with ⟨more, longer, rest⟩ | ⟨more, longer, rest⟩
  · cases more with
    | nil =>
        have types : a = b := String.toList_inj.mp (by simpa using longer.symm)
        have ids : x = y := String.toList_inj.mp (by simpa using rest)
        rw [types, ids]
    | cons first more =>
        obtain ⟨rfl, _⟩ := List.cons.inj (show '-' :: x.toList = _ from rest)
        exact absurd longer (apart a mem b mem' more)
  · cases more with
    | nil =>
        have types : a = b := String.toList_inj.mp (by simpa using longer)
        have ids : x = y := String.toList_inj.mp (by simpa using rest.symm)
        rw [types, ids]
    | cons first more =>
        obtain ⟨rfl, _⟩ := List.cons.inj (show '-' :: y.toList = _ from rest)
        exact absurd longer (apart b mem' a mem more)

/-- The text does not tell every pair apart. -/
example : chaveDe ("sender-key", "memory-1") = chaveDe ("sender-key-memory", "1") := by decide

/-! ### Values that are JSON -/

/-- A JSON value whose objects have distinct names. -/
abbrev Valor := {valor : JsonValue Nat // valor.wellFormed = true}

/-- Values written and read as JSON, with the truth JavaScript gives them. -/
def emJson : BufferJSON Valor where
  stringify valor := String.ofList (valor.1.stringify Numerals.nat)
  parse texto :=
    match JsonValue.parse Numerals.nat texto.toList with
    | some valor => if ok : valor.wellFormed = true then ⟨valor, ok⟩ else ⟨.null, rfl⟩
    | none => ⟨.null, rfl⟩
  verdadeiro valor :=
    match valor.1 with
    | .null => false
    | .bool b => b
    | .num n => n ≠ 0
    | .str s => s ≠ ""
    | _ => true
  fromObject valor := valor
  registered valor :=
    match valor.1 with
    | .obj members => members.any fun member =>
        member.1 = "registered" && (member.2 matches .bool true)
    | _ => false
  initAuthCreds := ⟨.obj [("registered", .bool false)], rfl⟩

theorem emJson_fiel : emJson.Fiel where
  volta := by
    rintro ⟨valor, ok⟩
    simp [emJson, JsonValue.parse_stringify Numerals.nat (JsonValue.wellFormed_of_test ok), ok]
  escreve := by
    rintro ⟨valor, _⟩ empty
    obtain ⟨c, cs, chars, _⟩ := JsonValue.stringify_starts Numerals.nat valor
    simp [emJson, chars] at empty

/-- A key of each of the two types the store names in its comment is written, and one is removed. -/
theorem refina_iff_preKeyESession :
    Always (comMapa emJson) (Refina emJson {par | par.1 ∈ ({"pre-key", "session"} : Set String)})
      inicial
      [.set 0 ("pre-key", "3") ⟨.obj [("keyId", .num 3)], rfl⟩,
        .saveCreds 0 ⟨.obj [("registered", .bool true)], rfl⟩,
        .set 0 ("session", "5511") ⟨.str "aberta", rfl⟩, .set 0 ("pre-key", "3") ⟨.null, rfl⟩] := by
  refine (refina_iff emJson emJson_fiel _ ⟨⟨.bool true, rfl⟩, rfl⟩).mpr (injOn_chaveDe ?_) _ ?_
  · rintro a (rfl | rfl) b (rfl | rfl) resto same <;> simp at same
  · simp [Acao.Usa]

end AuthStore

end IccvBackend
