import WolfPSA.Source.Hash
import WolfPSA.Lib.Bytes
import WolfPSA.Lib.Trace

/-!
# What hash operations have absorbed

The interface of `src/psa_hash_engine.c` against its purpose: an operation is an algorithm and the
message it has absorbed, a clone is a copy of both, and a digest is that of the message. In a run
without environment failures every call answers as this specification does; in any run every success
does.
-/

namespace WolfPSA.Guarantees
open Lib Source

/-! ## The specification -/

/-- Hash functions with the digest sizes of `psa_hash_get_size`. -/
structure HashFamily where
  digest : Algorithm → Bytes → Bytes
  length_digest : ∀ {alg} message, hashHasCase alg = true →
    (digest alg message).length = psaHashGetSize alg

/-- An active operation is its algorithm and what it has absorbed. -/
abbrev Absorbing := Option (Algorithm × Bytes)

abbrev Messages := Nat → Absorbing

namespace HashFamily

variable (hash : HashFamily)

def setup (operation : Absorbing) (alg : Algorithm) : HashResult × Absorbing :=
  if !psaAlgIsHash alg then (⟨.invalidArgument, []⟩, operation)
  else if !hashHasCase alg then (⟨.notSupported, []⟩, operation)
  else if operation.isSome then (⟨.badState, []⟩, operation)
  else (⟨.success, []⟩, some (alg, []))

def update (operation : Absorbing) (input : InBuf) : HashResult × Absorbing :=
  if input.isNull && decide (input.length > 0) then (⟨.invalidArgument, []⟩, none)
  else
    match operation with
    | none => (⟨.badState, []⟩, none)
    | some (alg, message) =>
      if input.length > uint32Max then (⟨.invalidArgument, []⟩, none)
      else (⟨.success, []⟩, some (alg, message ++ input.bytes))

def finish (operation : Absorbing) (out : OutBuf) (lengthIsNull : Bool) : HashResult × Absorbing :=
  if lengthIsNull || (out.isNull && out.size != 0) then (⟨.invalidArgument, []⟩, none)
  else
    match operation with
    | none => (⟨.badState, []⟩, none)
    | some (alg, message) =>
      if out.size < psaHashGetSize alg then (⟨.bufferTooSmall, []⟩, none)
      else (⟨.success, hash.digest alg message⟩, none)

def verify (operation : Absorbing) (reference : InBuf) : HashResult × Absorbing :=
  if reference.isNull && reference.length != 0 then (⟨.invalidArgument, []⟩, operation)
  else
    match operation with
    | none => (⟨.badState, []⟩, none)
    | some (alg, message) =>
      if reference.bytes = hash.digest alg message then (⟨.success, []⟩, none)
      else (⟨.invalidSignature, []⟩, none)

def clone (source target : Absorbing) : HashResult × Absorbing :=
  if target.isSome || source.isNone then (⟨.badState, []⟩, target) else (⟨.success, []⟩, source)

/-- What the call answers, and the operation it can change, as it should be after the call. -/
def call (messages : Messages) : HashCall → HashResult × Absorbing
  | .setup op alg => setup (messages op) alg
  | .update op input => update (messages op) input
  | .finish op out lengthIsNull => hash.finish (messages op) out lengthIsNull
  | .verify op reference => hash.verify (messages op) reference
  | .clone source target => clone (messages source) (messages target)
  | .abort _ => (⟨.success, []⟩, none)

/-- The operation that a refused call leaves. -/
def refused (messages : Messages) : HashCall → Absorbing
  | .setup op _ => messages op
  | .clone _ target => messages target
  | .verify op reference =>
    if reference.isNull && reference.length != 0 then messages op else none
  | .update _ _ | .finish _ _ _ | .abort _ => none

/-- A call that the specification refuses leaves what every refused call leaves. -/
theorem call_refused {messages : Messages} {c : HashCall}
    (failed : (hash.call messages c).1.status ≠ .success) :
    (hash.call messages c).2 = refused messages c := by
  cases c with
  | setup op alg =>
    change (setup (messages op) alg).1.status ≠ .success at failed
    change (setup (messages op) alg).2 = messages op
    unfold setup at failed ⊢
    split_ifs at failed ⊢ <;> first | rfl | exact absurd rfl failed
  | update op input =>
    change (update (messages op) input).1.status ≠ .success at failed
    change (update (messages op) input).2 = none
    generalize messages op = told at failed ⊢
    unfold update at failed ⊢
    split_ifs at failed ⊢
    · rfl
    · cases told <;> rfl
    · cases told with
      | none => rfl
      | some held => exact absurd rfl failed
  | finish op out lengthIsNull =>
    change (hash.finish (messages op) out lengthIsNull).2 = none
    unfold finish
    split_ifs
    · rfl
    cases messages op with
    | none => rfl
    | some held =>
      dsimp only
      split_ifs <;> rfl
  | verify op reference =>
    change (hash.verify (messages op) reference).2 =
      if reference.isNull && reference.length != 0 then messages op else none
    unfold verify
    split_ifs
    · rfl
    cases messages op with
    | none => rfl
    | some held =>
      dsimp only
      split_ifs <;> rfl
  | clone source target =>
    change (clone (messages source) (messages target)).1.status ≠ .success at failed
    change (clone (messages source) (messages target)).2 = messages target
    unfold clone at failed ⊢
    split_ifs at failed ⊢
    · rfl
    · exact absurd rfl failed
  | abort op => rfl

/-- The specification as a machine. -/
def step {Obj : Type} (messages : Messages) (e : HashEvent Obj) : HashResult × Messages :=
  let r := hash.call messages e.call
  (r.1, Function.update messages e.call.op r.2)

/-- The messages after a call that may have failed for reasons of its environment. -/
def next {Obj : Type} (messages : Messages) (e : HashEvent Obj) (r : HashResult) : Messages :=
  Function.update messages e.call.op
    (if r.status = .success then (hash.call messages e.call).2 else refused messages e.call)

theorem next_step {Obj : Type} (messages : Messages) (e : HashEvent Obj) :
    hash.next messages e (hash.step messages e).1 = (hash.step messages e).2 := by
  unfold next step
  dsimp only
  split
  · rfl
  · rename_i failed
    rw [hash.call_refused failed]

/-- What the operations have absorbed in a history of calls. -/
def absorbed {Obj : Type} (h : History (HashEvent Obj) HashResult) : Messages :=
  replay hash.next (fun _ => none) h

/-- The answers of the one-shot calls. -/
def compute (alg : Algorithm) (input : InBuf) (out : OutBuf) (lengthIsNull : Bool) : HashResult :=
  if !psaAlgIsHash alg then ⟨.invalidArgument, []⟩
  else if !hashHasCase alg then ⟨.notSupported, []⟩
  else if input.isNull && decide (input.length > 0) then ⟨.invalidArgument, []⟩
  else if input.length > uint32Max then ⟨.invalidArgument, []⟩
  else if lengthIsNull || (out.isNull && out.size != 0) then ⟨.invalidArgument, []⟩
  else if out.size < psaHashGetSize alg then ⟨.bufferTooSmall, []⟩
  else ⟨.success, hash.digest alg input.bytes⟩

def compare (alg : Algorithm) (input reference : InBuf) : Status :=
  if !psaAlgIsHash alg then .invalidArgument
  else if !hashHasCase alg then .notSupported
  else if reference.length ≠ psaHashGetSize alg then .invalidSignature
  else if reference.isNull then .invalidArgument
  else if input.isNull && decide (input.length > 0) then .invalidArgument
  else if input.length > uint32Max then .invalidArgument
  else if hash.digest alg input.bytes = reference.bytes then .success
  else .invalidSignature

/-- A one-shot computation is the three calls one after the other. -/
theorem compute_eq (alg : Algorithm) (input : InBuf) (out : OutBuf) (lengthIsNull : Bool) :
    hash.compute alg input out lengthIsNull =
      let started := setup none alg
      let updated := update started.2 input
      if started.1.status ≠ .success then ⟨started.1.status, []⟩
      else if updated.1.status ≠ .success then ⟨updated.1.status, []⟩
      else (hash.finish updated.2 out lengthIsNull).1 := by
  unfold compute setup
  cases psaAlgIsHash alg with
  | false => rfl
  | true =>
  cases hashHasCase alg with
  | false => rfl
  | true =>
  unfold update
  cases input.isNull && decide (input.length > 0) with
  | true => rfl
  | false =>
  simp only [Bool.not_true, Bool.false_eq_true, if_false, Option.isSome_none]
  by_cases long : input.length > uint32Max
  · rw [if_pos long, if_pos long]
    rfl
  rw [if_neg long, if_neg long]
  unfold finish
  cases lengthIsNull || (out.isNull && out.size != 0) with
  | true => rfl
  | false =>
  by_cases small : out.size < psaHashGetSize alg
  · simp [small]
  · simp [small]

end HashFamily

/-! ## wolfCrypt -/

/-- What the hash objects of wolfCrypt stand for: `behind alg object message` says that the object has
absorbed the message. -/
structure HashMeaning (Obj : Type) extends HashFamily where
  behind : Algorithm → Obj → Bytes → Prop

/-- The wolfCrypt calls that succeed compute the hash functions. -/
structure HashMeaning.Computes {Obj : Type} (m : HashMeaning Obj) (wc : WcHash Obj) : Prop where
  init : ∀ {alg object}, wc.init alg = .ok object → m.behind alg object []
  update : ∀ {alg object message input object'}, m.behind alg object message →
    wc.update alg object input = .ok object' → m.behind alg object' (message ++ input)
  final : ∀ {alg object message digest}, m.behind alg object message →
    wc.final alg object = .ok digest → digest = m.digest alg message
  copy : ∀ {alg object message object'}, m.behind alg object message →
    wc.copy alg object = .ok object' → m.behind alg object' message

/-- An environment in which nothing fails. -/
structure CalmHash {Obj : Type} (env : HashEnv Obj) : Prop where
  initialized : env.cryptoIsInitialized = true
  memory : env.ctxAlloc = true
  init : ∀ alg, ∃ object, env.wc.init alg = .ok object
  update : ∀ alg object input, ∃ object', env.wc.update alg object input = .ok object'
  final : ∀ alg object, ∃ digest, env.wc.final alg object = .ok digest
  copy : ∀ alg object, ∃ object', env.wc.copy alg object = .ok object'

/-! ## One call -/

theorem hashGetSize_of_case {alg : Algorithm} (supported : hashHasCase alg = true) :
    0 < psaHashGetSize alg ∧ psaHashGetSize alg ≤ wolfpsaHashMaxSize := by
  unfold hashHasCase at supported
  unfold psaHashGetSize
  obtain ⟨size, found⟩ := Option.isSome_iff_exists.mp supported
  rw [found]
  have all : ∀ entry ∈ hashSizes, 0 < entry.2 ∧ entry.2 ≤ wolfpsaHashMaxSize := by decide
  obtain ⟨front, back, split, -⟩ := List.lookup_eq_some_iff.mp found
  exact all (alg, size) (by rw [split]; simp)

section

variable {Obj : Type} {m : HashMeaning Obj} {env : HashEnv Obj}

/-- A context is active and its object has absorbed the message. -/
structure HashCtxHolds (m : HashMeaning Obj) (ctx : HashCtx Obj) (held : Algorithm × Bytes) :
    Prop where
  alg : ctx.alg = held.1
  supported : hashHasCase ctx.alg = true
  active : ctx.initialized = true ∧ ctx.started = true ∧ ctx.finalized = false
  behind : m.behind ctx.alg ctx.object held.2

/-- The operation is what the specification says it is. -/
def HashHolds (m : HashMeaning Obj) : Option (HashCtx Obj) → Absorbing → Prop :=
  Option.Rel (HashCtxHolds m)

/-- A call that answers `r` and leaves `operation` against the specification: every success is the
specified one, in a calm environment so is every answer, and the operation is as it should be. -/
structure AnswersAs (m : HashMeaning Obj) (env : HashEnv Obj) (r : HashResult)
    (operation : Option (HashCtx Obj)) (told : HashResult × Absorbing) (refused : Absorbing) : Prop where
  success : r.status = .success → r = told.1
  calm : CalmHash env → r = told.1
  holds : HashHolds m operation (if r.status = .success then told.2 else refused)

/-- An answer that does not depend on the environment. -/
theorem AnswersAs.same {r : HashResult} {operation : Option (HashCtx Obj)} {told : Absorbing}
    {refused : Absorbing} (holds : HashHolds m operation told) (kept : HashHolds m operation refused) :
    AnswersAs m env r operation (r, told) refused := by
  refine ⟨fun _ => rfl, fun _ => rfl, ?_⟩
  split
  · exact holds
  · exact kept

/-- A success. -/
theorem AnswersAs.done {digest : Bytes} {operation : Option (HashCtx Obj)} {told refused : Absorbing}
    (holds : HashHolds m operation told) :
    AnswersAs m env ⟨.success, digest⟩ operation (⟨.success, digest⟩, told) refused :=
  ⟨fun _ => rfl, fun _ => rfl, holds⟩

/-- A failure of the environment. -/
theorem AnswersAs.fault {r : HashResult} {operation : Option (HashCtx Obj)}
    {told : HashResult × Absorbing} {refused : Absorbing} (failed : r.status ≠ .success)
    (stormy : ¬CalmHash env) (kept : HashHolds m operation refused) :
    AnswersAs m env r operation told refused := by
  refine ⟨fun succeeded => absurd succeeded failed, fun calm => absurd calm stormy, ?_⟩
  rw [if_neg failed]
  exact kept

theorem HashHolds.isSome {operation : Option (HashCtx Obj)} {told : Absorbing}
    (holds : HashHolds m operation told) : operation.isSome = told.isSome := by
  cases holds with
  | none => rfl
  | some holds => rfl

/-- An ended operation and an operation that was never set up. -/
theorem HashHolds.ended : HashHolds m none none := Option.Rel.none

theorem psaHashSetup_answers (computes : m.Computes env.wc) {operation : Option (HashCtx Obj)}
    {told : Absorbing} (held : HashHolds m operation told) (alg : Algorithm) :
    AnswersAs m env ⟨(psaHashSetup env operation alg).1, []⟩ (psaHashSetup env operation alg).2
      (HashFamily.setup told alg) told := by
  unfold psaHashSetup HashFamily.setup psaHashCheckAlgSupported
  cases init : env.cryptoIsInitialized with
  | false =>
    exact .fault (by simp [require, refuse, bind, Except.bind])
      (fun calm => by rw [calm.initialized] at init; cases init)
      (by simpa [require, refuse, bind, Except.bind] using held)
  | true =>
  cases isHash : psaAlgIsHash alg with
  | false => exact .same held held
  | true =>
  cases supported : hashHasCase alg with
  | false => exact .same held held
  | true =>
  cases held with
  | some holds => exact .same (.some holds) (.some holds)
  | none =>
  cases memory : env.ctxAlloc with
  | false =>
    exact .fault (by simp [require, refuse, bind, Except.bind])
      (fun calm => by rw [calm.memory] at memory; cases memory) .ended
  | true =>
  cases made : env.wc.init alg with
  | error code =>
    refine .fault (wcFailure code).property (fun calm => ?_) .ended
    obtain ⟨object, works⟩ := calm.init alg
    rw [works] at made
    cases made
  | ok object =>
    exact .done (.some ⟨rfl, supported, ⟨rfl, rfl, rfl⟩, computes.init made⟩)

/-- An active operation with its fields spelt out. -/
theorem HashHolds.active {ctx : HashCtx Obj} {held : Algorithm × Bytes}
    (holds : HashCtxHolds m ctx held) :
    ctx = ⟨held.1, true, true, false, ctx.object⟩ ∧ hashHasCase held.1 = true ∧
      m.behind held.1 ctx.object held.2 := by
  obtain ⟨alg, initialized, started, finalized, object⟩ := ctx
  obtain ⟨same, supported, ⟨rfl, rfl, rfl⟩, behind⟩ := holds
  cases same
  exact ⟨rfl, supported, behind⟩

theorem psaHashUpdate_answers (computes : m.Computes env.wc) {operation : Option (HashCtx Obj)}
    {told : Absorbing} (held : HashHolds m operation told) (input : InBuf) :
    AnswersAs m env ⟨(psaHashUpdate env operation input).1, []⟩
      (psaHashUpdate env operation input).2 (HashFamily.update told input) none := by
  unfold psaHashUpdate HashFamily.update
  cases absent : input.isNull && decide (input.length > 0) with
  | true => exact .same .ended .ended
  | false =>
  cases held with
  | none => exact .same .ended .ended
  | @some ctx held holds =>
  obtain ⟨alg, message⟩ := held
  obtain ⟨fields, supported, behind⟩ := HashHolds.active holds
  rw [fields]
  generalize ctx.object = object at behind ⊢
  unfold hashUpdate wolfpsaCheckWord32Length
  simp only [Bool.false_eq_true, if_false]
  rw [supported]
  by_cases long : input.length > uint32Max
  · rw [if_pos long, if_pos long]
    exact .same .ended .ended
  rw [if_neg long, if_neg long]
  cases made : env.wc.update alg object input.bytes with
  | error code =>
    refine .fault (wcFailure code).property (fun calm => ?_) .ended
    obtain ⟨moved, works⟩ := calm.update alg object input.bytes
    rw [works] at made
    cases made
  | ok moved =>
    exact .done (.some ⟨rfl, supported, ⟨rfl, rfl, rfl⟩, computes.update behind made⟩)

theorem psaHashFinish_answers (computes : m.Computes env.wc) {operation : Option (HashCtx Obj)}
    {told : Absorbing} (held : HashHolds m operation told) (out : OutBuf) (lengthIsNull : Bool) :
    AnswersAs m env (psaHashFinish env operation out lengthIsNull).1
      (psaHashFinish env operation out lengthIsNull).2 (m.finish told out lengthIsNull) none := by
  unfold psaHashFinish HashFamily.finish
  split
  · exact .same .ended .ended
  cases held with
  | none => exact .same .ended .ended
  | @some ctx held holds =>
  obtain ⟨alg, message⟩ := held
  obtain ⟨fields, supported, behind⟩ := HashHolds.active holds
  rw [fields]
  generalize ctx.object = object at behind ⊢
  have sized : (psaHashGetSize alg != 0) = true := by
    simpa using (hashGetSize_of_case supported).1.ne'
  unfold hashFinish
  dsimp only
  rw [supported, sized]
  by_cases small : out.size < psaHashGetSize alg
  · rw [if_pos small, decide_eq_false (by omega)]
    exact .same .ended .ended
  rw [if_neg small, decide_eq_true (by omega)]
  cases made : env.wc.final alg object with
  | error code =>
    refine .fault (wcFailure code).property (fun calm => ?_) .ended
    obtain ⟨digest, works⟩ := calm.final alg object
    rw [works] at made
    cases made
  | ok digest =>
    cases computes.final behind made
    change AnswersAs m env ⟨.success, (m.digest alg message).take (psaHashGetSize alg)⟩ none _ none
    rw [List.take_of_length_le (Nat.le_of_eq (m.length_digest message supported))]
    exact .done .ended

/-- A buffer that may be read has as many bytes as it says. -/
theorem length_bytes_of_readable {buffer : InBuf}
    (readable : (buffer.isNull && buffer.length != 0) = false) :
    buffer.bytes.length = buffer.length := by
  cases buffer with
  | data bytes => rfl
  | null n =>
    have empty : n = 0 := by simpa [InBuf.isNull, InBuf.length] using readable
    rw [empty]
    rfl

/-- Behind a setup, the internal buffer holds every digest. -/
theorem finish_room (hash : HashFamily) {alg : Algorithm} (supported : hashHasCase alg = true)
    (message : Bytes) : hash.finish (some (alg, message)) ⟨false, wolfpsaHashMaxSize⟩ false =
      (⟨.success, hash.digest alg message⟩, none) := by
  have room := (hashGetSize_of_case supported).2
  unfold HashFamily.finish
  simp only [Bool.false_and, Bool.or_false, Bool.false_eq_true, if_false]
  rw [if_neg (by omega)]

theorem psaHashVerify_answers (computes : m.Computes env.wc) {operation : Option (HashCtx Obj)}
    {told : Absorbing} (held : HashHolds m operation told) (reference : InBuf) :
    AnswersAs m env ⟨(psaHashVerify env operation reference).1, []⟩
      (psaHashVerify env operation reference).2 (m.verify told reference)
      (if reference.isNull && reference.length != 0 then told else none) := by
  unfold psaHashVerify HashFamily.verify
  cases readable : reference.isNull && reference.length != 0 with
  | true => exact .same held held
  | false =>
  simp only [Bool.false_eq_true, if_false]
  cases held with
  | none => exact .same .ended .ended
  | @some ctx held holds =>
  obtain ⟨alg, message⟩ := held
  obtain ⟨-, supported, -⟩ := HashHolds.active holds
  have finished := psaHashFinish_answers computes (.some holds : HashHolds m _ _)
    ⟨false, wolfpsaHashMaxSize⟩ false
  rw [finish_room m.toHashFamily supported] at finished
  generalize psaHashFinish env (some ctx) ⟨false, wolfpsaHashMaxSize⟩ false = r at finished ⊢
  obtain ⟨answer, left⟩ := r
  have ended := finished.holds
  rw [ite_self] at ended
  cases ended
  dsimp only at finished ⊢
  by_cases succeeded : answer.status = .success
  · cases finished.success succeeded
    rw [if_neg (not_not.mpr rfl)]
    dsimp only
    by_cases same : reference.bytes = m.digest alg message
    · rw [if_neg (by rw [← length_bytes_of_readable readable, same]; simp), if_pos same, if_pos same]
      exact .same .ended .ended
    · rw [if_neg same, if_neg same, ite_self]
      exact .same .ended .ended
  · rw [if_pos succeeded]
    refine .fault succeeded (fun calm => ?_) .ended
    exact succeeded (by rw [finished.calm calm])

theorem psaHashClone_answers (computes : m.Computes env.wc) {source target : Option (HashCtx Obj)}
    {sent told : Absorbing} (sends : HashHolds m source sent) (held : HashHolds m target told) :
    AnswersAs m env ⟨(psaHashClone env source target).1, []⟩ (psaHashClone env source target).2
      (HashFamily.clone sent told) told := by
  unfold psaHashClone HashFamily.clone
  cases held with
  | some holds => exact .same (.some holds) (.some holds)
  | none =>
  cases sends with
  | none => exact .same .ended .ended
  | @some ctx sent holds =>
  obtain ⟨alg, message⟩ := sent
  obtain ⟨fields, supported, behind⟩ := HashHolds.active holds
  rw [fields]
  generalize ctx.object = object at behind ⊢
  dsimp only
  rw [supported]
  cases memory : env.ctxAlloc with
  | false =>
    exact .fault (by simp [require, refuse, bind, Except.bind])
      (fun calm => by rw [calm.memory] at memory; cases memory) .ended
  | true =>
  cases made : hashCopy env.wc alg object with
  | error code =>
    refine .fault (wcFailure code).property (fun calm => ?_) .ended
    unfold hashCopy at made
    split at made
    · cases made
    obtain ⟨copied, works⟩ := calm.copy alg object
    rw [works] at made
    cases made
  | ok copied =>
    have copies : m.behind alg copied message := by
      unfold hashCopy at made
      split at made
      · cases made
        exact behind
      · exact computes.copy behind made
    exact .done (.some ⟨rfl, supported, ⟨rfl, rfl, rfl⟩, copies⟩)

/-- All operations are what the specification says they are. -/
def HashStateHolds (m : HashMeaning Obj) (s : HashState Obj) (messages : Messages) : Prop :=
  ∀ op, HashHolds m (s op) (messages op)

/-- Every call, on operations that are what the specification says. -/
theorem hashCall_answers (computes : m.Computes env.wc) {s : HashState Obj} {messages : Messages}
    (held : HashStateHolds m s messages) (call : HashCall) :
    AnswersAs m env (hashCall env s call).1 (hashCall env s call).2
      (m.call messages call) (HashFamily.refused messages call) := by
  cases call with
  | setup op alg => exact psaHashSetup_answers computes (held op) alg
  | update op input => exact psaHashUpdate_answers computes (held op) input
  | finish op out lengthIsNull => exact psaHashFinish_answers computes (held op) out lengthIsNull
  | verify op reference => exact psaHashVerify_answers computes (held op) reference
  | clone source target => exact psaHashClone_answers computes (held source) (held target)
  | abort op => exact .done .ended

/-! ## One-shot calls -/

/-- An answer and the specified one: every success is it, and in a calm environment every answer. -/
structure OneShotAs {ρ : Type} (env : HashEnv Obj) (status : ρ → Status) (answer told : ρ) : Prop where
  success : status answer = .success → answer = told
  calm : CalmHash env → answer = told

theorem OneShotAs.fault {ρ : Type} {status : ρ → Status} {answer told : ρ}
    (failed : status answer ≠ .success) (stormy : ¬CalmHash env) :
    OneShotAs env status answer told :=
  ⟨fun succeeded => absurd succeeded failed, fun calm => absurd calm stormy⟩

theorem OneShotAs.same {ρ : Type} {status : ρ → Status} {answer : ρ} :
    OneShotAs env status answer answer :=
  ⟨fun _ => rfl, fun _ => rfl⟩

/-- Two calls one after the other, the second only behind a success of the first. -/
theorem AnswersAs.andThen {r : HashResult} {operation : Option (HashCtx Obj)}
    {told : HashResult × Absorbing} {refused : Absorbing} {next : HashResult}
    {toldNext : HashResult} (first : AnswersAs m env r operation told refused)
    (second : HashHolds m operation told.2 → told.1.status = .success →
      OneShotAs env HashResult.status next toldNext) :
    OneShotAs env HashResult.status (if r.status ≠ .success then ⟨r.status, []⟩ else next)
      (if told.1.status ≠ .success then ⟨told.1.status, []⟩ else toldNext) := by
  by_cases succeeded : r.status = .success
  · have same := first.success succeeded
    have holds := first.holds
    rw [if_pos succeeded] at holds
    have told := same ▸ succeeded
    rw [if_neg (not_not.mpr succeeded), if_neg (not_not.mpr told)]
    exact second holds told
  · rw [if_pos succeeded]
    refine ⟨fun done => absurd done succeeded, fun calm => ?_⟩
    rw [← first.calm calm, if_pos succeeded]

theorem psaHashCompute_answers (computes : m.Computes env.wc) (alg : Algorithm) (input : InBuf)
    (out : OutBuf) (lengthIsNull : Bool) :
    OneShotAs env HashResult.status (psaHashCompute env alg input out lengthIsNull)
      (m.compute alg input out lengthIsNull) := by
  unfold psaHashCompute
  cases init : env.cryptoIsInitialized with
  | false =>
    exact .fault (by simp) (fun calm => by rw [calm.initialized] at init; cases init)
  | true =>
  simp only [Bool.not_true, Bool.false_eq_true, if_false]
  rw [m.compute_eq]
  refine (psaHashSetup_answers computes .ended alg).andThen fun active _ => ?_
  refine (psaHashUpdate_answers computes active input).andThen fun absorbed _ => ?_
  have finished := psaHashFinish_answers computes absorbed out lengthIsNull
  exact ⟨finished.success, finished.calm⟩

/-- With a buffer for every digest, a computation fails on its input alone. -/
theorem compute_room (hash : HashFamily) {alg : Algorithm} (isHash : psaAlgIsHash alg = true)
    (supported : hashHasCase alg = true) (input : InBuf) :
    hash.compute alg input ⟨false, wolfpsaHashMaxSize⟩ false =
      if input.isNull && decide (input.length > 0) then ⟨.invalidArgument, []⟩
      else if input.length > uint32Max then ⟨.invalidArgument, []⟩
      else ⟨.success, hash.digest alg input.bytes⟩ := by
  have room := (hashGetSize_of_case supported).2
  unfold HashFamily.compute
  rw [isHash, supported]
  simp only [Bool.not_true, Bool.false_and, Bool.or_false, Bool.false_eq_true, if_false]
  rw [if_neg (not_lt.mpr room)]

theorem psaHashCompare_answers (computes : m.Computes env.wc) (alg : Algorithm)
    (input reference : InBuf) :
    OneShotAs env id (psaHashCompare env alg input reference) (m.compare alg input reference) := by
  unfold psaHashCompare HashFamily.compare
  cases init : env.cryptoIsInitialized with
  | false =>
    exact .fault (by simp) (fun calm => by rw [calm.initialized] at init; cases init)
  | true =>
  cases isHash : psaAlgIsHash alg with
  | false => exact .same
  | true =>
  cases supported : hashHasCase alg with
  | false =>
    have none : psaHashGetSize alg = 0 := by
      unfold hashHasCase at supported
      unfold psaHashGetSize
      rw [Option.isNone_iff_eq_none.mp (Option.isSome_eq_false_iff.mp supported)]
      rfl
    simp only [Bool.not_true, Bool.not_false, Bool.false_eq_true, if_false, if_true]
    rw [if_pos none]
    exact .same
  | true =>
  simp only [Bool.not_true, Bool.false_eq_true, if_false]
  rw [if_neg (hashGetSize_of_case supported).1.ne']
  split
  · exact .same
  rename_i sized
  split
  · exact .same
  rename_i readable
  have computed := psaHashCompute_answers computes alg input ⟨false, wolfpsaHashMaxSize⟩ false
  rw [compute_room m.toHashFamily isHash supported] at computed
  generalize psaHashCompute env alg input ⟨false, wolfpsaHashMaxSize⟩ false = r at computed ⊢
  by_cases succeeded : r.status = .success
  · have same := computed.success succeeded
    rw [if_neg (not_not.mpr succeeded)]
    split at same
    · rw [same] at succeeded
      cases succeeded
    split at same
    · rw [same] at succeeded
      cases succeeded
    have whole : reference.bytes.length = (m.digest alg input.bytes).length := by
      rw [length_bytes_of_readable (by simp [readable]), not_not.mp sized,
        m.length_digest input.bytes supported]
    rename_i present short
    rw [same, if_neg present, if_neg short]
    dsimp only
    rw [List.take_of_length_le (Nat.le_of_eq whole)]
    exact .same
  · rw [if_pos succeeded]
    refine ⟨fun done => absurd done succeeded, fun calm => ?_⟩
    have same := computed.calm calm
    split at same
    · rename_i absent
      rw [same, if_pos absent]
    split at same
    · rename_i present long
      rw [same, if_neg present, if_pos long]
    · rw [same] at succeeded
      exact absurd rfl succeeded

end

/-! ## Runs -/

/-- What one call of a run answers, by what its operations have absorbed. -/
structure HashAnswers {Obj : Type} (m : HashMeaning Obj) (e : HashEvent Obj) (r : HashResult)
    (messages : Messages) : Prop where
  success : r.status = .success → r = (m.call messages e.call).1
  calm : CalmHash e.env → r = (m.call messages e.call).1
  /-- A digest is the one-shot digest of what the operation has absorbed, in whatever pieces and
  through whatever clones. -/
  oneShot : ∀ op out lengthIsNull, e.call = .finish op out lengthIsNull → r.status = .success →
    ∃ alg message, messages op = some (alg, message) ∧
      ∀ env : HashEnv Obj, m.Computes env.wc →
        ((psaHashCompute env alg (.data message) out lengthIsNull).status = .success →
          (psaHashCompute env alg (.data message) out lengthIsNull).hash = r.hash) ∧
        (CalmHash env → message.length ≤ uint32Max →
          psaHashCompare env alg (.data message) (.data r.hash) = .success)

section

variable {Obj : Type} {m : HashMeaning Obj}

theorem psaAlgIsHash_of_case {alg : Algorithm} (supported : hashHasCase alg = true) :
    psaAlgIsHash alg = true := by
  unfold hashHasCase at supported
  obtain ⟨size, found⟩ := Option.isSome_iff_exists.mp supported
  have all : ∀ entry ∈ hashSizes, psaAlgIsHash entry.1 = true := by decide
  obtain ⟨front, back, split, -⟩ := List.lookup_eq_some_iff.mp found
  exact all (alg, size) (by rw [split]; simp)

/-- The reference that a digest makes is accepted. -/
theorem compare_digest (hash : HashFamily) {alg : Algorithm} (supported : hashHasCase alg = true)
    {message : Bytes} (fits : message.length ≤ uint32Max) :
    hash.compare alg (.data message) (.data (hash.digest alg message)) = .success := by
  unfold HashFamily.compare
  rw [psaAlgIsHash_of_case supported, supported]
  simp [InBuf.length, InBuf.isNull, InBuf.bytes, hash.length_digest message supported, fits]

/-- A digest that is handed out, and the one-shot calls. -/
theorem finish_oneShot {operation : Option (HashCtx Obj)} {told : Absorbing} {env : HashEnv Obj}
    (computes : m.Computes env.wc) (held : HashHolds m operation told) {out : OutBuf}
    {lengthIsNull : Bool}
    (finished : (psaHashFinish env operation out lengthIsNull).1.status = .success) :
    ∃ alg message, told = some (alg, message) ∧ hashHasCase alg = true ∧
      (psaHashFinish env operation out lengthIsNull).1.hash = m.digest alg message := by
  have same := (psaHashFinish_answers computes held out lengthIsNull).success finished
  rw [same] at finished ⊢
  unfold HashFamily.finish at finished ⊢
  split at finished
  · cases finished
  cases held with
  | none => cases finished
  | @some ctx held holds =>
    obtain ⟨alg, message⟩ := held
    obtain ⟨-, supported, -⟩ := HashHolds.active holds
    refine ⟨alg, message, rfl, supported, ?_⟩
    rename_i present
    rw [if_neg present]
    dsimp only at finished ⊢
    split at finished
    · cases finished
    rename_i room
    rw [if_neg room]

/-- What a one-shot computation hands out is the digest. -/
theorem compute_success {hash : HashFamily} {alg : Algorithm} {input : InBuf} {out : OutBuf}
    {lengthIsNull : Bool} (succeeded : (hash.compute alg input out lengthIsNull).status = .success) :
    (hash.compute alg input out lengthIsNull).hash = hash.digest alg input.bytes := by
  unfold HashFamily.compute at succeeded ⊢
  split_ifs at succeeded ⊢
  rfl

theorem hashStep_answers {e : HashEvent Obj} (computes : m.Computes e.env.wc) {s : HashState Obj}
    {messages : Messages} (held : HashStateHolds m s messages) :
    HashAnswers m e (hashStep s e).1 messages ∧
      HashStateHolds m (hashStep s e).2 (m.next messages e (hashStep s e).1) := by
  have answers := hashCall_answers computes held e.call
  refine ⟨⟨answers.success, answers.calm, ?_⟩, fun op => ?_⟩
  · intro op out lengthIsNull called succeeded
    unfold hashStep at succeeded ⊢
    rw [called] at succeeded ⊢
    obtain ⟨alg, message, active, supported, digest⟩ := finish_oneShot computes (held op) succeeded
    change ∃ alg message, _ ∧ ∀ env, m.Computes env.wc → (_ → _ =
      (psaHashFinish e.env (s op) out lengthIsNull).1.hash) ∧ (_ → _ → psaHashCompare env alg _
        (.data (psaHashFinish e.env (s op) out lengthIsNull).1.hash) = _)
    rw [digest]
    refine ⟨alg, message, active, fun env computes => ⟨fun computed => ?_, fun calm fits => ?_⟩⟩
    · have same := (psaHashCompute_answers computes alg (.data message) out lengthIsNull).success
        computed
      rw [same] at computed ⊢
      exact compute_success computed
    · rw [(psaHashCompare_answers computes alg _ _).calm calm]
      exact compare_digest m.toHashFamily supported fits
  · change HashHolds m (Function.update s e.call.op (hashCall e.env s e.call).2 op)
      (Function.update messages e.call.op _ op)
    by_cases here : op = e.call.op
    · subst here
      rw [Function.update_self, Function.update_self]
      exact answers.holds
    · rw [Function.update_of_ne here, Function.update_of_ne here]
      exact held op

end

/-- The hash interface refines its specification. In a run without environment failures the two have
one history; in every run each success is the specified answer to what the operations have absorbed, the
active operations are the specified ones, and a digest is the one that the one-shot calls give. -/
theorem hash_runs_refine {Obj : Type} (m : HashMeaning Obj) (es : List (HashEvent Obj))
    (computes : ∀ e ∈ es, m.Computes e.env.wc) :
    ((∀ e ∈ es, CalmHash e.env) →
      (run hashStep hashInit es).1 = (run m.step (fun _ => none) es).1) ∧
    Throughout (fun e r older => HashAnswers m e r (m.absorbed older)) (run hashStep hashInit es).1 ∧
    ∀ op, ((run hashStep hashInit es).2 op).isSome =
      (m.absorbed (run hashStep hashInit es).1 op).isSome := by
  have start : HashStateHolds m hashInit fun _ => none := fun _ => .ended
  constructor
  · intro calm
    refine run_refines (C := fun e => m.Computes e.env.wc ∧ CalmHash e.env) (R := HashStateHolds m)
      start ?_ es fun e member => ⟨computes e member, calm e member⟩
    rintro s messages e ⟨computes, calm⟩ held
    obtain ⟨answers, moved⟩ := hashStep_answers computes held
    have same : (hashStep s e).1 = (m.step messages e).1 := answers.calm calm
    refine ⟨same, ?_⟩
    rw [same, m.next_step] at moved
    exact moved
  · obtain ⟨answers, held⟩ := run_simulates (P := fun messages e r => HashAnswers m e r messages) start
      (fun s messages e computes held => hashStep_answers computes held) es computes
    exact ⟨answers, fun op => (held op).isSome⟩

/-! ### SHA-256 of the letters of the alphabet -/

/-- SHA-256 of `a` and of `abc`; elsewhere zeros. -/
def lettersDigest (alg : Algorithm) (message : Bytes) : Bytes :=
  if alg = psaAlgSha256 ∧ message = [0x61] then
    beBytes 32 0xca978112ca1bbdcafac231b39a23dc4da786eff8147c4e72b9807785afee48bb
  else if alg = psaAlgSha256 ∧ message = [0x61, 0x62, 0x63] then
    beBytes 32 0xba7816bf8f01cfea414140de5dae2223b00361a396177a9cb410ff61f20015ad
  else List.replicate (psaHashGetSize alg) 0

theorem length_lettersDigest {alg : Algorithm} (message : Bytes) (_ : hashHasCase alg = true) :
    (lettersDigest alg message).length = psaHashGetSize alg := by
  unfold lettersDigest
  split
  · rename_i here
    rw [length_beBytes, here.1]
    rfl
  split
  · rename_i here
    rw [length_beBytes, here.1]
    rfl
  · exact List.length_replicate

/-- Objects that keep what they have absorbed. -/
def lettersMeaning : HashMeaning Bytes where
  digest := lettersDigest
  length_digest := length_lettersDigest
  behind := fun _ object message => object = message

def lettersHash : WcHash Bytes where
  init _ := .ok []
  update _ object input := .ok (object ++ input)
  final alg object := .ok (lettersDigest alg object)
  copy _ object := .ok object

theorem computes_lettersHash : lettersMeaning.Computes lettersHash where
  init := by
    intro alg object made
    cases made
    rfl
  update := by
    rintro alg object message input object' rfl made
    cases made
    rfl
  final := by
    rintro alg object message digest rfl made
    cases made
    rfl
  copy := by
    rintro alg object message object' rfl made
    cases made
    rfl

def lettersEnv : HashEnv Bytes := ⟨true, true, lettersHash⟩

theorem calm_lettersEnv : CalmHash lettersEnv :=
  ⟨rfl, rfl, fun _ => ⟨[], rfl⟩, fun _ object input => ⟨object ++ input, rfl⟩,
    fun alg object => ⟨lettersDigest alg object, rfl⟩, fun _ object => ⟨object, rfl⟩⟩

/-- The first letter, a clone, two more letters for the original, and both ended. -/
def lettersCalls : List (HashEvent Bytes) :=
  [.setup 0 psaAlgSha256, .update 0 (.data [0x61]), .clone 0 1, .update 0 (.data [0x62, 0x63]),
    .finish 0 ⟨false, 32⟩ false, .verify 1 (.data (lettersDigest psaAlgSha256 [0x61])),
    .update 1 (.data [])].map fun call => ⟨lettersEnv, call⟩

theorem letters_hash_run :
    (∀ e ∈ lettersCalls, lettersMeaning.Computes e.env.wc) ∧
      (∀ e ∈ lettersCalls, CalmHash e.env) ∧
      (run hashStep hashInit lettersCalls).1.map (·.2) =
        [⟨.badState, []⟩, ⟨.success, []⟩,
          ⟨.success, lettersDigest psaAlgSha256 [0x61, 0x62, 0x63]⟩, ⟨.success, []⟩,
          ⟨.success, []⟩, ⟨.success, []⟩, ⟨.success, []⟩] := by
  have computes : ∀ e ∈ lettersCalls, lettersMeaning.Computes e.env.wc := by
    intro e member
    obtain ⟨call, -, rfl⟩ := List.mem_map.mp member
    exact computes_lettersHash
  have calm : ∀ e ∈ lettersCalls, CalmHash e.env := by
    intro e member
    obtain ⟨call, -, rfl⟩ := List.mem_map.mp member
    exact calm_lettersEnv
  refine ⟨computes, calm, ?_⟩
  rw [(hash_runs_refine lettersMeaning lettersCalls computes).1 calm]
  decide +kernel

end WolfPSA.Guarantees
