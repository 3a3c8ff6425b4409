/-
Module: IccvBackend.Proofs.SealedSecrets
Purpose: What is sealed opens later, under any keys that still have its own, and only as it was
  sealed.
Trusted boundary: none
Main exports: SecretCryptoService.AbreDepois, SecretCryptoService.Recusa,
  SecretCryptoService.abreDepois_recusa
-/
import IccvBackend.Crypto.SecretCrypto

namespace IccvBackend

open Lib

/-! ### Texts and bytes -/

theorem textoDe_bytesDe (invalido : List UInt8 → String) (texto : String) :
    textoDe invalido (bytesDe texto) = texto := by
  have whole : ByteArray.mk (bytesDe texto).toArray = texto.toUTF8 := by simp [bytesDe]
  have read : String.fromUTF8? texto.toUTF8 = some texto := by
    unfold String.fromUTF8?
    rw [String.toUTF8_eq_toByteArray, dif_pos texto.isValidUTF8]
    rfl
  rw [textoDe, whole, read, Option.getD_some]

theorem bytesDe_inj {texto outro : String} (same : bytesDe texto = bytesDe outro) :
    texto = outro := by
  have read := textoDe_bytesDe (fun _ => "") texto
  rw [same, textoDe_bytesDe] at read
  exact read.symm

theorem not_mem_encode (bytes : List UInt8) : '.' ∉ Base64.encode bytes := by
  intro mem
  exact absurd (Base64.encode_alphabet bytes _ mem) (by decide)

namespace SecretCryptoService

variable {N ν : Type} [DecidableEq N] {numeros : Numeros N} {numerals : Numerals ν}
  {invalido : List UInt8 → String} {aead : Aead}

/-! ### The envelope -/

omit [DecidableEq N] in
/-- A version whose text has no point keeps the four parts of the envelope apart. -/
theorem partes_envelope {versao : N} (inteiro : numeros.inteiroPositivo versao = true)
    (semPonto : '.' ∉ numeros.texto versao) (iv etiqueta cifrado : List UInt8) :
    partes numeros (['.'].intercalate ['v' :: numeros.texto versao, Base64.encode iv,
      Base64.encode etiqueta, Base64.encode cifrado]) = some ⟨versao, iv, etiqueta, cifrado⟩ := by
  unfold partes
  rw [List.splitOn_intercalate]
  · simp only [numeros.number_texto versao inteiro, Base64.decode_encode]
  · intro part mem
    simp only [List.mem_cons, List.not_mem_nil, or_false] at mem
    rcases mem with rfl | rfl | rfl | rfl
    · simpa using semPonto
    · exact not_mem_encode iv
    · exact not_mem_encode etiqueta
    · exact not_mem_encode cifrado
  · exact List.cons_ne_nil _ _

omit [DecidableEq N] in
theorem versaoAtiva_positiva (env : AmbienteDoCofre) :
    numeros.inteiroPositivo (novo numeros env).versaoAtiva = true := by
  change numeros.inteiroPositivo (lerVersaoAtiva numeros env) = true
  unfold lerVersaoAtiva
  split
  · split
    · assumption
    · exact numeros.um_positivo
  · exact numeros.um_positivo

/-- What is sealed of a value: the use of the cipher. -/
def usoDe (numerals : Numerals ν) (chave : ChaveDoCofre) (valor : JsonValue ν) (contexto : String)
    (iv : List UInt8) : Uso :=
  ⟨chave, iv, bytesDe contexto, bytesDe (String.ofList (valor.stringify numerals))⟩

/-- The tag and the cipher text of a use. -/
def Uso.selado (aead : Aead) (uso : Uso) : List UInt8 × List UInt8 :=
  aead.sela uso.chave uso.iv uso.contexto uso.claro

theorem cifrar_eq {cofre : SecretCryptoService N} {chave : ChaveDoCofre}
    (tem : cofre.chaveDaVersao cofre.versaoAtiva = some chave) (valor : JsonValue ν)
    (contexto : String)
    (iv : List UInt8) :
    cifrar numeros numerals aead cofre valor contexto iv =
      .ok (['.'].intercalate ['v' :: numeros.texto cofre.versaoAtiva, Base64.encode iv,
        Base64.encode (Uso.selado aead (usoDe numerals chave valor contexto iv)).1,
        Base64.encode (Uso.selado aead (usoDe numerals chave valor contexto iv)).2]) := by
  unfold cifrar chaveObrigatoria
  rw [tem]
  rfl

theorem decifrar_eq_ok_iff {cofre : SecretCryptoService N} {envelope : List Char}
    {contexto : String} {valor : JsonValue ν} :
    decifrar numeros numerals invalido aead cofre envelope contexto = .ok valor ↔
      ∃ p, partes numeros envelope = some p ∧ ∃ chave, cofre.chaveDaVersao p.versao = some chave ∧
        ∃ claro, aead.abre chave p.iv (bytesDe contexto) (p.etiqueta, p.cifrado) = some claro ∧
          JsonValue.parse numerals (textoDe invalido claro).toList = some valor := by
  simp only [decifrar, chaveObrigatoria, bind_eq_ok_iff, orFail_eq_ok_iff]

/-! ### Sealing and opening -/

/-- Sealed under one environment, the value comes back under another. -/
def AbreDepois (numeros : Numeros N) (numerals : Numerals ν) (invalido : List UInt8 → String)
    (aead : Aead) (env env' : AmbienteDoCofre) (valor : JsonValue ν) (contexto : String)
    (iv : List UInt8) : Prop :=
  ∃ envelope, cifrar numeros numerals aead (novo numeros env) valor contexto iv = .ok envelope ∧
    decifrar numeros numerals invalido aead (novo numeros env') envelope contexto = .ok valor

/-- A text and a context that are not those of a sealing, nor of another use. -/
structure Estranho (numeros : Numeros N) (aead : Aead) (uso : Uso) (selado : String)
    (outros : Set Uso) (env : AmbienteDoCofre) (envelope : List Char) (contexto : String)
    (difere : SecretCryptoService.Envelope N → Prop) : Prop where
  difere : ∀ p, partes numeros envelope = some p →
    contexto ≠ selado ∨ p.iv ≠ uso.iv ∨ (p.etiqueta, p.cifrado) ≠ Uso.selado aead uso ∨ difere p
  deOutro : ∀ p, partes numeros envelope = some p → ∀ outro ∈ outros,
    ¬ ((novo numeros env).chaveDaVersao p.versao = some outro.chave ∧ p.iv = outro.iv ∧
      bytesDe contexto = outro.contexto ∧ (p.etiqueta, p.cifrado) = Uso.selado aead outro)

/-- With another context than the sealed one, or a text whose parts are other ones, opening
throws. -/
def Recusa (numeros : Numeros N) (numerals : Numerals ν) (invalido : List UInt8 → String)
    (aead : Aead) (uso : Uso) (selado : String) (outros : Set Uso)
    (difere : AmbienteDoCofre → SecretCryptoService.Envelope N → Prop) : Prop :=
  ∀ env envelope contexto,
    Estranho numeros aead uso selado outros env envelope contexto (difere env) →
      ∃ falha, decifrar numeros numerals invalido aead (novo numeros env) envelope contexto =
        .error falha

/-- The version of a text leads to another key, or to none. -/
def OutraChave (numeros : Numeros N) (uso : Uso) (env : AmbienteDoCofre) (p : Envelope N) : Prop :=
  (novo numeros env).chaveDaVersao p.versao ≠ some uso.chave

/-- The version of a text is another one, or leads to another key. -/
def OutraVersao (numeros : Numeros N) (uso : Uso) (versao : N) (env : AmbienteDoCofre)
    (p : Envelope N) : Prop :=
  p.versao ≠ versao ∨ OutraChave numeros uso env p

/-- A value sealed under a version whose text has no point opens wherever the version still has its
key; with another context, nonce, tag or cipher text, or a version of another key, opening
throws. -/
theorem abreDepois_recusa (numeros : Numeros N) (numerals : Numerals ν)
    (invalido : List UInt8 → String) (aead : Aead) (env env' : AmbienteDoCofre)
    (chave : ChaveDoCofre)
    (valor : JsonValue ν) (contexto : String) (iv : List UInt8) (outros : Set Uso)
    (bemFormado : valor.WellFormed)
    (sela : (novo numeros env).chaveDaVersao (novo numeros env).versaoAtiva = some chave)
    (ainda : (novo numeros env').chaveDaVersao (novo numeros env).versaoAtiva = some chave)
    (semPonto : '.' ∉ numeros.texto (novo numeros env).versaoAtiva)
    (ideal : aead.Ideal (insert (usoDe numerals chave valor contexto iv) outros)) :
    AbreDepois numeros numerals invalido aead env env' valor contexto iv ∧
      Recusa numeros numerals invalido aead (usoDe numerals chave valor contexto iv) contexto
        outros (OutraChave numeros (usoDe numerals chave valor contexto iv)) := by
  constructor
  · refine ⟨_, cifrar_eq sela valor contexto iv, ?_⟩
    apply decifrar_eq_ok_iff.mpr
    refine ⟨_, partes_envelope (versaoAtiva_positiva env) semPonto _ _ _, chave, ainda,
      bytesDe (String.ofList (valor.stringify numerals)), ?_, ?_⟩
    · apply (ideal _ _ _ _ _).mpr
      exact ⟨Set.mem_insert _ _, rfl⟩
    · rw [textoDe_bytesDe, String.toList_ofList]
      exact JsonValue.parse_stringify numerals bemFormado
  · intro env'' envelope contexto' estranho
    cases opened : decifrar numeros numerals invalido aead (novo numeros env'') envelope
      contexto' with
    | error falha => exact ⟨falha, rfl⟩
    | ok valor' =>
        exfalso
        obtain ⟨p, parts, chave', has, claro, plain, _⟩ := decifrar_eq_ok_iff.mp opened
        obtain ⟨used, sealed⟩ := (ideal _ _ _ _ _).mp plain
        rcases Set.mem_insert_iff.mp used with same | other
        · have key : chave' = chave := congrArg Uso.chave same
          have nonce : p.iv = iv := congrArg Uso.iv same
          have context : bytesDe contexto' = bytesDe contexto := congrArg Uso.contexto same
          have text : claro = (usoDe numerals chave valor contexto iv).claro :=
            congrArg Uso.claro same
          rcases estranho.difere p parts with differs | differs | differs | differs
          · exact differs (bytesDe_inj context)
          · exact differs nonce
          · apply differs
            rw [← sealed, key, nonce, context, text]
            rfl
          · apply differs
            rw [has, key]
            rfl
        · exact estranho.deOutro p parts _ other ⟨has, rfl, rfl, sealed.symm⟩

end SecretCryptoService

/-! ### A server with one key under two versions -/

namespace CofreDeTeste

/-- The numbers the server of the examples meets. -/
inductive Numero where
  | um
  | dois
  | grande
  | nan
deriving Repr, DecidableEq

def number (texto : List Char) : Numero :=
  if texto = ['1'] then .um
  else if texto = ['2'] then .dois
  else if texto = "1500000000000000000000".toList ∨ texto = "1.5e+21".toList then .grande
  else .nan

def texto : Numero → List Char
  | .um => ['1']
  | .dois => ['2']
  | .grande => "1.5e+21".toList
  | .nan => "NaN".toList

theorem number_texto (n : Numero) (inteiro : decide (n ≠ .nan) = true) :
    number (texto n) = n := by
  cases n with
  | nan => exact absurd rfl (of_decide_eq_true inteiro)
  | um => decide
  | dois => decide
  | grande => decide

def numeros : Numeros Numero where
  number := number
  texto := texto
  inteiroPositivo := fun n => n ≠ .nan
  um := .um
  um_positivo := rfl
  number_texto := number_texto

/-- Values without numbers. -/
def numerals : Numerals Empty where
  text := Empty.elim
  read := fun _ => none
  starts := fun n => n.elim
  numeral := fun n => n.elim
  read_text := fun n => n.elim

def bytes : List UInt8 := List.replicate 32 17

theorem bytes_certos : bytes.length = tamanhoChave := rfl

def chaveDeTeste : ChaveDoCofre := ⟨bytes, bytes_certos⟩

def emHex : String := "1111111111111111111111111111111111111111111111111111111111111111"

def valor : JsonValue Empty := .obj [("token", .str "tok-123")]

theorem valor_bemFormado : valor.WellFormed :=
  .obj (List.nodup_singleton _) fun member mem => by
    rw [List.mem_singleton.mp mem]
    exact .str _

def contexto : String := "payment-credentials:1:PAGBANK"

def iv : List UInt8 := List.replicate 12 5

def uso : Uso := SecretCryptoService.usoDe numerals chaveDeTeste valor contexto iv

/-- A cipher that has sealed one text. -/
def aead : Aead where
  sela := fun _ _ _ claro => (List.replicate 16 0, claro)
  abre := fun chave iv contexto selado =>
    if chave = uso.chave ∧ iv = uso.iv ∧ contexto = uso.contexto ∧
        selado = (List.replicate 16 0, uso.claro) then some uso.claro
    else none

theorem aead_ideal : aead.Ideal (insert uso ∅) := by
  intro chave iv contexto selado claro
  simp only [aead, insert_empty_eq, Set.mem_singleton_iff]
  constructor
  · intro opened
    split at opened
    · next all =>
        obtain ⟨rfl, rfl, rfl, rfl⟩ := all
        cases opened
        exact ⟨rfl, rfl⟩
    · cases opened
  · rintro ⟨same, rfl⟩
    have key : chave = uso.chave := congrArg Uso.chave same
    have nonce : iv = uso.iv := congrArg Uso.iv same
    have context : contexto = uso.contexto := congrArg Uso.contexto same
    have text : claro = uso.claro := congrArg Uso.claro same
    rw [key, nonce, context, text, if_pos ⟨rfl, rfl, rfl, rfl⟩]

/-- The key as the active one, of version 1. -/
def antes : AmbienteDoCofre := [("PAYMENT_CREDENTIALS_KEY", emHex)]

/-- After a rotation: the key is the numbered one, and the active one has version 2. -/
def depois : AmbienteDoCofre :=
  [("PAYMENT_CREDENTIALS_KEY", "2222222222222222222222222222222222222222222222222222222222222222"),
    ("PAYMENT_CREDENTIALS_KEY_VERSION", "2"), ("PAYMENT_CREDENTIALS_KEY_V1", emHex)]

/-- The same key under two versions. -/
def repetida : AmbienteDoCofre :=
  [("PAYMENT_CREDENTIALS_KEY", emHex), ("PAYMENT_CREDENTIALS_KEY_V2", emHex)]

/-- A version whose text has a point. -/
def grande : AmbienteDoCofre :=
  [("PAYMENT_CREDENTIALS_KEY", emHex),
    ("PAYMENT_CREDENTIALS_KEY_VERSION", "1500000000000000000000")]

end CofreDeTeste

namespace SecretCryptoService

open CofreDeTeste

/-- Sealed before a rotation of the keys, and opened after it. -/
theorem abreDepois_rotacao :
    AbreDepois numeros numerals (fun _ => "") aead antes depois valor contexto iv ∧
      Recusa numeros numerals (fun _ => "") aead uso contexto ∅ (OutraChave numeros uso) :=
  abreDepois_recusa numeros numerals (fun _ => "") aead antes depois chaveDeTeste valor contexto
    iv ∅
    valor_bemFormado (by decide +kernel) (by decide +kernel) (by decide) aead_ideal

theorem partes_grande (a b c : List UInt8) :
    partes numeros (['.'].intercalate ['v' :: numeros.texto .grande, Base64.encode a,
      Base64.encode b, Base64.encode c]) = none := by
  have cinco : ['.'].intercalate ['v' :: numeros.texto .grande, Base64.encode a, Base64.encode b,
      Base64.encode c] = ['.'].intercalate ["v1".toList, "5e+21".toList, Base64.encode a,
        Base64.encode b, Base64.encode c] := by
    have digits : 'v' :: numeros.texto .grande = "v1".toList ++ ['.'] ++ "5e+21".toList := by decide
    rw [digits]
    simp only [List.intercalate_cons_cons, List.append_assoc]
  rw [cinco, partes, List.splitOn_intercalate]
  · intro part mem
    simp only [List.mem_cons, List.not_mem_nil, or_false] at mem
    rcases mem with rfl | rfl | rfl | rfl | rfl
    · decide
    · decide
    · exact not_mem_encode a
    · exact not_mem_encode b
    · exact not_mem_encode c
  · exact List.cons_ne_nil _ _

/-- Under a version of 22 digits what is sealed does not open; and with one key under two versions,
the text with the other version opens. -/
theorem not_abreDepois_recusa :
    ¬ AbreDepois numeros numerals (fun _ => "") aead grande grande valor contexto iv ∧
      ¬ Recusa numeros numerals (fun _ => "") aead uso contexto ∅
        (OutraVersao numeros uso .um) := by
  constructor
  · rintro ⟨envelope, sealed, opened⟩
    have tem : (novo numeros grande).chaveDaVersao (novo numeros grande).versaoAtiva =
        some chaveDeTeste := by
      decide +kernel
    have ativa : (novo numeros grande).versaoAtiva = .grande := by decide +kernel
    rw [cifrar_eq tem, ativa] at sealed
    cases sealed
    obtain ⟨p, parts, _⟩ := decifrar_eq_ok_iff.mp opened
    rw [partes_grande] at parts
    cases parts
  · intro refuses
    let envelope := ['.'].intercalate ['v' :: numeros.texto .dois, Base64.encode iv,
      Base64.encode (Uso.selado aead uso).1, Base64.encode (Uso.selado aead uso).2]
    have parts : partes numeros envelope = some ⟨.dois, iv, (Uso.selado aead uso).1,
        (Uso.selado aead uso).2⟩ :=
      partes_envelope (by decide) (by decide) _ _ _
    have opened : decifrar numeros numerals (fun _ => "") aead (novo numeros repetida) envelope
        contexto = .ok valor := by
      apply decifrar_eq_ok_iff.mpr
      refine ⟨_, parts, chaveDeTeste, by decide +kernel, uso.claro, ?_, ?_⟩
      · exact (aead_ideal _ _ _ _ _).mpr ⟨Set.mem_insert _ _, rfl⟩
      · change JsonValue.parse numerals (textoDe _ (bytesDe _)).toList = _
        rw [textoDe_bytesDe, String.toList_ofList]
        exact JsonValue.parse_stringify numerals valor_bemFormado
    obtain ⟨falha, refused⟩ := refuses repetida envelope contexto
      { difere := fun p is => by
          rw [parts] at is
          cases is
          exact .inr (.inr (.inr (.inl (by decide))))
        deOutro := fun _ _ outro mem => (Set.notMem_empty outro mem).elim }
    rw [opened] at refused
    cases refused

end SecretCryptoService

end IccvBackend
