import CallGate.Proofs.Dispatcher.Conversation
import CallGate.Proofs.Dispatcher.Gate

/-! Primitives and regions that do the same whenever they are asked the same. -/

namespace CallGate

/-- The primitives answer by what they are asked, whatever they did before. Only a nonce may come
out differently.

Beyond answers that depend on their arguments alone, no nonce decides whether a text can be
encrypted, since one is drawn for every answer, and whatever is encrypted can be decrypted, since
what a client reads is what its session opens an answer to. -/
structure Primitives.Steady {σ : Type} (crypto : Primitives σ) : Prop where
  agree (secret : SecretKey) (peer : PublicKey) (one other : σ) :
    (crypto.agree secret peer one).1 = (crypto.agree secret peer other).1
  digest (message : Bytes) (one other : σ) :
    (crypto.digest message one).1 = (crypto.digest message other).1
  decrypt {size : Nat} (key : SessionKey) (nonce : Nonce) (associated : Bytes)
    (ciphertext : FixedBytes size) (tag : Tag) (one other : σ) :
    (crypto.decrypt key nonce associated ciphertext tag one).1 =
      (crypto.decrypt key nonce associated ciphertext tag other).1
  encrypts {size : Nat} (key : SessionKey) (first second : Nonce) (associated : Bytes)
    (text : FixedBytes size) (one other : σ) :
    (crypto.encrypt key first associated text one).1.isOk =
      (crypto.encrypt key second associated text other).1.isOk
  decrypts {size : Nat} {key : SessionKey} {nonce : Nonce} {associated : Bytes}
    {text ciphertext : FixedBytes size} {tag : Tag} {state next : σ}
    (encrypted : crypto.encrypt key nonce associated text state = (.ok (ciphertext, tag), next))
    (later : σ) :
    (crypto.decrypt key nonce associated ciphertext tag later).1 = .ok text

/-- Regions do with a register file what they always do, and of the server's own flags no bit
outside `Flags.statusMask` ever changes. Those bits include the auxiliary carry, bit 4, which the
mask does not count among the arithmetic outcomes.

That the flags stay is more than is said of a trampoline. It is needed because a region is entered
with the server's bits outside the mask, whatever the client sends in their place. -/
structure Invoker.Steady {ξ φ : Type} (invoker : Invoker ξ φ) : Prop where
  enter (block : LockedBlock) (file : RegisterFile) (one other : ξ) :
    (invoker.trampoline.enter block file one).1 = (invoker.trampoline.enter block file other).1
  flags (one other : φ) :
    (invoker.flags.read one).1.nonStatus = (invoker.flags.read other).1.nonStatus

/-- The standard primitives only keep their place in the supply of random bytes. -/
theorem Primitives.standard_steady : standard.Steady where
  agree _ _ _ _ := by simp only [standard]
  digest _ _ _ := by simp only [standard]
  -- Only the tag decides between the two outcomes, and no state is looked at.
  decrypt key nonce associated ciphertext tag one other := by
    simp only [standard]
    split <;> rfl
  encrypts _ _ _ _ _ _ _ := by simp only [standard, Except.isOk, Except.toBool]
  decrypts := standard_inverting.decrypts

/-- Primitives that hide nothing: a text is its own ciphertext, and the right tag is zero. -/
def Primitives.plain : Primitives Unit where
  publicKey secret := ⟨secret.bytes⟩
  agree _ _ state := (default, state)
  digest _ state := (default, state)
  random _ state := (default, state)
  encrypt _ _ _ text state := (.ok (text, default), state)
  decrypt _ _ _ ciphertext tag state :=
    (if tag = default then .ok ciphertext else .error .authentication, state)

/-- There is nothing that they could remember. -/
theorem Primitives.plain_steady : plain.Steady where
  agree _ _ _ _ := rfl
  digest _ _ _ := rfl
  decrypt _ _ _ _ _ _ _ := rfl
  encrypts _ _ _ _ _ _ _ := rfl
  -- The text was left as it is, so it is still there.
  decrypts encrypted later := by
    cases encrypted
    simp [plain]

/-- An invoker whose regions change no register does so every time. -/
theorem Invoker.idle_steady : Invoker.idle.Steady where
  enter _ _ _ _ := rfl
  flags _ _ := rfl

/-- An invoker whose regions add one to `rax`. -/
def Invoker.adding : Invoker (Rehearsal Unit) Unit :=
  ⟨Rehearsal.trampoline fun file state => ({ file with rax := file.rax + 1 }, state),
    .fixed ⟨0x202⟩⟩

/-- So does one whose regions always add the same. -/
theorem Invoker.adding_steady : Invoker.adding.Steady where
  enter _ _ _ _ := rfl
  flags _ _ := rfl

namespace Handshake

/-- The session that follows from a message does not depend on what the primitives did before. -/
theorem complete_steady {σ : Type} {crypto : Primitives σ} (steady : crypto.Steady)
    (keys : KeyPair) (message : KeyExchange) (one other : σ) :
    (complete crypto keys message one).1 = (complete crypto keys message other).1 := by
  -- A message of another version is refused, whatever went before.
  cases checked : checkVersion message with
  | error error => simp [complete, checked]
  | ok _ =>
    -- The shared secret is the same, and so is its digest.
    simp only [complete, checked, sessionKey,
      steady.agree keys.secretKey message.publicKey one other]
    rw [steady.digest]

end Handshake

namespace Channel

variable {σ : Type} {crypto : Primitives σ}

/-- What a packet opens to does not depend on what the primitives did before. -/
theorem unwrap_steady (steady : crypto.Steady) (session : Session) (packet : Bytes)
    (one other : σ) :
    (unwrap crypto session packet one).1 = (unwrap crypto session packet other).1 := by
  -- A packet that is no envelope is refused without any primitive.
  cases decoded : Envelope.decode packet with
  | error error => simp [unwrap, decoded]
  | ok envelope =>
    -- The decryption comes to the same in either state.
    have same := steady.decrypt session.key envelope.nonce envelope.associatedData
      envelope.ciphertext envelope.tag one other
    cases first : crypto.decrypt session.key envelope.nonce envelope.associatedData
        envelope.ciphertext envelope.tag one with
    | mk outcome next =>
      cases second : crypto.decrypt session.key envelope.nonce envelope.associatedData
          envelope.ciphertext envelope.tag other with
      | mk outcome' next' =>
        rw [first, second] at same
        subst same
        cases outcome with
        | error error => rw [unwrap_of_refused decoded first, unwrap_of_refused decoded second]
        | ok text => rw [unwrap_of_opened decoded first, unwrap_of_opened decoded second]

/-- Whether a register file can be sealed does not depend on what the primitives did before. -/
theorem isOk_wrap (steady : crypto.Steady) (session : Session) (kind : PacketKind)
    (file : RegisterFile) (one other : σ) :
    (wrap crypto session kind file one).1.isOk = (wrap crypto session kind file other).1.isOk := by
  -- Sealing fails only if the encryption does.
  have isOk (state : σ) : (wrap crypto session kind file state).1.isOk =
      (crypto.encrypt session.key (crypto.random nonceSize state).1 kind.toBytes file.toBytes
        (crypto.random nonceSize state).2).1.isOk := by
    cases encrypted : crypto.encrypt session.key (crypto.random nonceSize state).1 kind.toBytes
        file.toBytes (crypto.random nonceSize state).2 with
    | mk outcome next => cases outcome <;> simp [wrap, encrypted, Except.isOk, Except.toBool]
  rw [isOk, isOk, steady.encrypts]

/-- An answer opens to the register file that was sealed in it. -/
theorem opensTo_wrap (steady : crypto.Steady) {session : Session} {file : RegisterFile}
    {state next : σ} {reply : Envelope}
    (wrapped : wrap crypto session .stateTransfer file state = (.ok reply, next)) :
    OpensTo crypto session (.ok file) reply.encode := by
  -- The envelope was made by an encryption of the register file, so decrypting gives it back.
  obtain ⟨kind, drawing, encrypted⟩ := encrypt_of_wrap wrapped
  refine ⟨file, rfl, fun later => ?_⟩
  have decrypted : (crypto.decrypt session.key reply.nonce reply.associatedData reply.ciphertext
      reply.tag later).1 = .ok file.toBytes := by
    rw [Envelope.associatedData, kind]
    exact steady.decrypts encrypted later
  have opened := unwrap_encode (by rw [kind]; rfl) decrypted
  rwa [kind, RegisterFile.ofBytes_toBytes] at opened

end Channel

namespace Invoker

variable {ξ φ : Type} {invoker : Invoker ξ φ}

/-- A region is entered with the same register file whatever ran before. -/
theorem admitted_steady (steady : invoker.Steady) (file : RegisterFile) (one other : State ξ φ) :
    invoker.admitted file one = invoker.admitted file other := by
  -- The status bits of the register file are the client's, so those of the server do not matter.
  have control := steady.flags one.flags other.flags
  simp only [Flags.nonStatus] at control
  simp only [admitted, control]

/-- What a register file comes to does not depend on what ran before. -/
theorem invoke_steady (steady : invoker.Steady) (table : RegionTable) (file : RegisterFile)
    (one other : State ξ φ) :
    (invoker.invoke table file one).1 = (invoker.invoke table file other).1 := by
  -- A token without a region is reported in the same way every time.
  cases found : table.lookup file.token with
  | error error => simp [invoke, found]
  | ok region =>
    -- The region gets the same register file, and does the same with it.
    simp only [invoke, found, FlagSource.guard, FlagGuard.enter, Flags.withStatusOf,
      steady.flags one.flags other.flags]
    rw [steady.enter region.block _ one.trampoline other.trampoline]

end Invoker

end CallGate
