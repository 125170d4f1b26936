/-
Frames over a stream that may cut them anywhere.

The peer on a network in memory reads a frame as soon as it is whole. How the
bytes of it were cut on their way makes no difference to that: bytes that arrive
in two pieces leave the peer where they leave it in one (`arrive_append`). So a
stream needs to promise little to carry tokens. `Carries` is what is asked of
it: each write passes on some of the bytes, each read gives some of those that
are there, and nothing is lost, changed or overtaken. How many it is each time is
left open.

Over such a stream sending a token is one frame arriving at the peer, and
receiving takes the first frame of what the peer wrote.
-/
import GssContext.Proofs.Frame.Writing
import GssContext.Rehearsal.Loopback

set_option autoImplicit false

namespace GssContext

namespace Rehearsal

variable {ε σ ν : Type}

namespace Loopback

/-! ## What is whole is read

The loop in which a peer reads has fuel, and it is run anew for each piece that arrives.
Three things are shown of it. What it does with the first frame does not depend on what
comes later; with fuel for every byte it does not depend on the fuel; so it makes no
difference whether bytes are read at once or in two runs. -/

/-- Let the peer read all that is whole. -/
def settle (peer : Peer) (unread written : Bytes) : Peer × Bytes × Bytes :=
  absorb unread.length peer unread written

/-- A frame is whole if there are as many bytes as it declares. What it holds and what
is left are then cut out of them. -/
theorem wholeFrame?_eq_some_iff {bytes token rest : Bytes} :
    wholeFrame? bytes = some (token, rest) ↔
      ∃ declared, declared = Bytes.toNatBE (bytes.take Frame.lengthSize) ∧
        Frame.lengthSize + declared ≤ bytes.length ∧
        token = (bytes.drop Frame.lengthSize).take declared ∧
        rest = bytes.drop (Frame.lengthSize + declared) := by
  rw [wholeFrame?]
  by_cases hshort : bytes.length <
      Frame.lengthSize + Bytes.toNatBE (bytes.take Frame.lengthSize)
  · rw [if_pos hshort]
    refine iff_of_false nofun ?_
    rintro ⟨_, rfl, hlong, -⟩
    omega
  · rw [if_neg hshort, Option.some.injEq, Prod.mk.injEq]
    constructor
    · rintro ⟨rfl, rfl⟩
      exact ⟨_, rfl, by omega, rfl, rfl⟩
    · rintro ⟨_, rfl, -, rfl, rfl⟩
      exact ⟨rfl, rfl⟩

/-- A frame takes some bytes. -/
theorem length_lt_of_wholeFrame? {bytes token rest : Bytes}
    (h : wholeFrame? bytes = some (token, rest)) : rest.length < bytes.length := by
  obtain ⟨declared, -, hlong, -, rfl⟩ := wholeFrame?_eq_some_iff.mp h
  rw [List.length_drop]
  have hsize : 0 < Frame.lengthSize := by decide
  omega

/-- More bytes make no difference to a frame that is whole. -/
theorem wholeFrame?_append {bytes token rest : Bytes} (more : Bytes)
    (h : wholeFrame? bytes = some (token, rest)) :
    wholeFrame? (bytes ++ more) = some (token, rest ++ more) := by
  obtain ⟨declared, hdeclared, hlong, rfl, rfl⟩ := wholeFrame?_eq_some_iff.mp h
  refine wholeFrame?_eq_some_iff.mpr ⟨declared, ?_, ?_, ?_, ?_⟩
  · rw [List.take_append_of_le_length (by omega)]
    exact hdeclared
  · rw [List.length_append]
    omega
  · rw [List.drop_append_of_le_length (by omega),
      List.take_append_of_le_length (by rw [List.length_drop]; omega)]
  · rw [List.drop_append_of_le_length hlong]

/-- Nor to a length that is there. -/
theorem declared?_append {bytes : Bytes} {declared : Nat} (more : Bytes)
    (h : declared? bytes = some declared) : declared? (bytes ++ more) = some declared := by
  rw [declared?] at h ⊢
  by_cases hshort : bytes.length < Frame.lengthSize
  · rw [if_pos hshort] at h
    cases h
  · rw [if_neg hshort] at h
    rw [if_neg (by rw [List.length_append]; omega),
      List.take_append_of_le_length (Nat.le_of_not_lt hshort)]
    exact h

/-- A peer that reads no more leaves everything. -/
theorem absorb_over {peer : Peer} (hover : peer.phase.isReading = false) (fuel : Nat)
    (unread written : Bytes) : absorb fuel peer unread written = (peer, unread, written) := by
  cases fuel with
  | zero => rfl
  | succ fuel =>
    rw [absorb, hover]
    rfl

/-- **What a peer does with what came in.** It waits for more, or it ends because
of a frame that is too long, or it reads a frame and goes on. The last two do not
depend on what comes in later. -/
theorem absorb_cases (peer : Peer) (unread : Bytes) :
    (∀ fuel written, absorb fuel peer unread written = (peer, unread, written)) ∨
      (∃ failed : Peer, failed.phase.isReading = false ∧ 0 < unread.length ∧
        ∀ more fuel written, absorb (fuel + 1) peer (unread ++ more) written =
          (failed, unread ++ more, written)) ∨
      ∃ token rest, rest.length < unread.length ∧
        ∀ more fuel written, absorb (fuel + 1) peer (unread ++ more) written =
          absorb fuel (peer.feed token).1 (rest ++ more)
            (written ++ (peer.feed token).2.flatMap Frame.encode) := by
  -- it stays as it is, it fails for the length that is declared, or it takes a frame; what
  -- comes later changes neither that length nor that frame
  cases hreading : peer.phase.isReading with
  | false => exact .inl fun fuel written => absorb_over hreading fuel unread written
  | true =>
    cases hdeclared : declared? unread with
    | none =>
      refine .inl fun fuel written => ?_
      cases fuel with
      | zero => rfl
      | succ fuel => rw [absorb, hreading, hdeclared]; rfl
    | some declared =>
      by_cases hlong : Frame.defaultBound < declared
      · let e : PeerError := .transport (.oversized declared Frame.defaultBound)
        have hover : (peer.fail e).phase.isReading = false := by
          cases peer <;> rfl
        have hsome : 0 < unread.length := by
          by_contra hnone
          rw [List.length_eq_zero_iff.mp (Nat.eq_zero_of_not_pos hnone)] at hdeclared
          cases hdeclared
        refine .inr (.inl ⟨peer.fail e, hover, hsome, fun more fuel written => ?_⟩)
        rw [absorb, hreading, declared?_append more hdeclared]
        exact if_pos hlong
      · cases hwhole : wholeFrame? unread with
        | none =>
          refine .inl fun fuel written => ?_
          cases fuel with
          | zero => rfl
          | succ fuel =>
            rw [absorb, hreading, hdeclared, hwhole]
            exact if_neg hlong
        | some cut =>
          obtain ⟨token, rest⟩ := cut
          refine .inr (.inr ⟨token, rest, length_lt_of_wholeFrame? hwhole,
            fun more fuel written => ?_⟩)
          rw [absorb, hreading, declared?_append more hdeclared, wholeFrame?_append more hwhole]
          exact if_neg hlong

/-- Fuel for every byte is enough, and more of it makes no difference. -/
theorem absorb_eq_settle {fuel : Nat} {peer : Peer} {unread : Bytes} (written : Bytes)
    (hfuel : unread.length ≤ fuel) :
    absorb fuel peer unread written = settle peer unread written := by
  -- the induction is on what is unread, since every frame takes some of it
  induction hlength : unread.length using Nat.strongRecOn generalizing fuel peer unread written with
  | ind length ih =>
    obtain hstays | ⟨failed, -, hsome, hfails⟩ | ⟨token, rest, hrest, hreads⟩ :=
      absorb_cases peer unread
    · rw [settle, hstays, hstays]
    · obtain ⟨fuel, rfl⟩ := Nat.exists_eq_add_one.mpr (Nat.lt_of_lt_of_le hsome hfuel)
      obtain ⟨count, hcount⟩ := Nat.exists_eq_add_one.mpr hsome
      have hfails := fun fuel => hfails [] fuel written
      rw [List.append_nil] at hfails
      rw [settle, hcount, hfails, hfails]
    · have hsome : 0 < unread.length := Nat.zero_lt_of_lt hrest
      obtain ⟨fuel, rfl⟩ := Nat.exists_eq_add_one.mpr (Nat.lt_of_lt_of_le hsome hfuel)
      obtain ⟨count, hcount⟩ := Nat.exists_eq_add_one.mpr hsome
      have hreads := fun fuel => hreads [] fuel written
      simp only [List.append_nil] at hreads
      rw [settle, hcount, hreads, hreads, ih rest.length (by omega) _ (by omega) rfl,
        ih rest.length (by omega) _ (by omega) rfl]

/-- The same for all that is whole, where no fuel has to be spoken of. -/
theorem settle_cases (peer : Peer) (unread : Bytes) :
    (∀ written, settle peer unread written = (peer, unread, written)) ∨
      (∃ failed : Peer, failed.phase.isReading = false ∧
        ∀ more written, settle peer (unread ++ more) written = (failed, unread ++ more, written)) ∨
      ∃ token rest, rest.length < unread.length ∧
        ∀ more written, settle peer (unread ++ more) written =
          settle (peer.feed token).1 (rest ++ more)
            (written ++ (peer.feed token).2.flatMap Frame.encode) := by
  obtain hstays | ⟨failed, hover, hsome, hfails⟩ | ⟨token, rest, hrest, hreads⟩ :=
    absorb_cases peer unread
  · exact .inl fun written => hstays _ written
  · refine .inr (.inl ⟨failed, hover, fun more written => ?_⟩)
    rw [← absorb_eq_settle written (Nat.le_succ _), hfails]
  · refine .inr (.inr ⟨token, rest, hrest, fun more written => ?_⟩)
    rw [← absorb_eq_settle written (Nat.le_succ _), hreads, absorb_eq_settle]
    rw [List.length_append, List.length_append]
    omega

/-- What is whole may be read before the rest comes in. The induction is on what is
unread: a frame that is whole is read by both, and after it there is less. -/
theorem settle_append (peer : Peer) (unread more written : Bytes) :
    settle (settle peer unread written).1 ((settle peer unread written).2.1 ++ more)
        (settle peer unread written).2.2 = settle peer (unread ++ more) written := by
  induction hlength : unread.length using Nat.strongRecOn generalizing peer unread written with
  | ind length ih =>
    obtain hstays | ⟨failed, hover, hfails⟩ | ⟨token, rest, hrest, hreads⟩ :=
      settle_cases peer unread
    · rw [hstays]
    · have hnow := hfails [] written
      rw [List.append_nil] at hnow
      rw [hnow, hfails, settle, absorb_over hover]
    · have hnow := hreads [] written
      rw [List.append_nil, List.append_nil] at hnow
      rw [hnow, hreads, ih rest.length (by omega) _ _ _ rfl]

/-- To arrive is to be put behind what is unread, and then all that is whole is read. -/
theorem arrive_eq {l : Loopback} {peer : Peer} (hpeer : l.peer = some peer) (bytes : Bytes) :
    l.arrive bytes =
      { l with
        peer := some (settle peer (l.toPeer ++ bytes) l.toClient).1
        toPeer := (settle peer (l.toPeer ++ bytes) l.toClient).2.1
        toClient := (settle peer (l.toPeer ++ bytes) l.toClient).2.2 } := by
  rw [arrive, hpeer]
  rfl

/-- **How bytes are cut on their way makes no difference.** -/
theorem arrive_append (l : Loopback) (bytes more : Bytes) :
    (l.arrive bytes).arrive more = l.arrive (bytes ++ more) := by
  cases hpeer : l.peer with
  | none => simp only [arrive, hpeer]
  | some peer =>
    rw [arrive_eq hpeer, arrive_eq hpeer, arrive_eq rfl]
    simp only [settle_append, List.append_assoc]

/-! ## One frame

If a frame comes in whole and nothing else is there, then one token is read, and what is
written are the frames of its answers. -/

/-- A frame of a length that can be written declares it. -/
theorem toNatBE_take_encode {token : Bytes} (hsendable : token.length ≤ Frame.maxSendable) :
    Bytes.toNatBE ((Frame.encode token).take Frame.lengthSize) = token.length := by
  have hsize : (Bytes.ofNatBE Frame.lengthSize token.length).length = Frame.lengthSize :=
    Bytes.length_ofNatBE _ _
  rw [Frame.encode, List.take_left' hsize]
  exact Frame.toNatBE_length hsendable

/-- So it declares the length of its token. -/
theorem declared?_encode {token : Bytes} (hsendable : token.length ≤ Frame.maxSendable) :
    declared? (Frame.encode token) = some token.length := by
  rw [declared?, Frame.length_encode, if_neg (by omega), toNatBE_take_encode hsendable]

/-- And it is whole, with nothing left over. -/
theorem wholeFrame?_encode {token : Bytes} (hsendable : token.length ≤ Frame.maxSendable) :
    wholeFrame? (Frame.encode token) = some (token, []) := by
  have hlength := Frame.length_encode token
  have hdrop : (Frame.encode token).drop Frame.lengthSize = token :=
    List.drop_left' (Bytes.length_ofNatBE _ _)
  have hdeclared := toNatBE_take_encode hsendable
  refine wholeFrame?_eq_some_iff.mpr ⟨token.length, hdeclared.symm, ?_, ?_, ?_⟩
  · exact Nat.le_of_eq hlength.symm
  · rw [hdrop, List.take_length]
  · rw [← hlength, List.drop_length]

/-- A frame that comes in whole is read, and its answers are written. -/
theorem arrive_encode {l : Loopback} {peer : Peer} (hpeer : l.peer = some peer)
    (hreading : peer.phase.isReading = true) (hnone : l.toPeer = []) {token : Bytes}
    (hfits : token.length ≤ Frame.defaultBound) :
    l.arrive (Frame.encode token) =
      { l with
        peer := some (peer.feed token).1
        toClient := l.toClient ++ (peer.feed token).2.flatMap Frame.encode } := by
  have hsendable : token.length ≤ Frame.maxSendable := Nat.le_trans hfits (by decide)
  have hsettle : settle peer (Frame.encode token) l.toClient =
      ((peer.feed token).1, [], l.toClient ++ (peer.feed token).2.flatMap Frame.encode) := by
    have hlength : (Frame.encode token).length = 3 + token.length + 1 := by
      rw [Frame.length_encode, Frame.lengthSize]
      omega
    rw [settle, hlength, absorb, hreading, declared?_encode hsendable,
      wholeFrame?_encode hsendable]
    -- nothing is left after the frame, so with or without fuel the peer waits
    refine (if_neg (Nat.not_lt_of_le hfits)).trans ?_
    exact absorb_eq_settle _ (Nat.zero_le _)
  rw [arrive_eq hpeer, hnone, List.nil_append, hsettle]

/-- Between two tokens: the peer has read all that came in, and what it wrote may
not be read yet. -/
structure Rests (l : Loopback) (peer : Peer) (written : Bytes) : Prop where
  peer : l.peer = some peer
  toPeer : l.toPeer = []
  toClient : l.toClient = written

/-- A peer that rests reads the frame that comes in. -/
theorem Rests.arrive {l : Loopback} {peer peer' : Peer} {written token : Bytes}
    {answers : List Bytes} (h : l.Rests peer written) (hreading : peer.phase.isReading = true)
    (hfits : token.length ≤ Frame.defaultBound) (hfeed : peer.feed token = (peer', answers)) :
    (l.arrive (Frame.encode token)).Rests peer' (written ++ answers.flatMap Frame.encode) := by
  rw [arrive_encode h.peer hreading h.toPeer hfits, hfeed, h.toClient]
  exact ⟨rfl, h.toPeer, rfl⟩

/-- A peer that ended is left as it is. -/
theorem peer_arrive_over {l : Loopback} {peer : Peer} (hpeer : l.peer = some peer)
    (hover : peer.phase.isReading = false) (bytes : Bytes) :
    (l.arrive bytes).peer = some peer := by
  rw [arrive_eq hpeer, settle, absorb_over hover]

/-- A peer that ended has a report, whether or not the client is still there. -/
theorem report?_of_done {l : Loopback} {peer : Peer} (hpeer : l.peer = some peer)
    {report : PeerReport} (hdone : peer.phase = .done report) : l.report? = some (.ok report) := by
  have hhangUp : l.hangUp = l := by
    rw [hangUp, hpeer]
    dsimp only
    rw [hdone]
    rfl
  rw [report?, hhangUp, hpeer, Option.bind_some, hdone]

end Loopback

/-! ## Streams that carry what is written

`Carries` says of each operation how the network looks after it, and it is said of the
network as the two sides know it, not as it is on the way. From the single operations
come those on many bytes, by induction on how many are left, and from these the frames. -/

open Loopback

/-- A socket to the peer that loses nothing, beside another part of the state. What
it did not pass on yet counts as if it were there already, so `view` is the network
as the two sides know it. How many bytes are moved at a time is not said. -/
structure Carries (socket : Client.Socket (Action ε (σ × ν))) (view : ν → Loopback) : Prop where
  write : ∀ w n bytes, bytes ≠ [] → ∃ count n',
    (socket.write bytes).run (w, n) = (.ok count, (w, n')) ∧ 0 < count ∧
      count ≤ bytes.length ∧ view n' = (view n).arrive (bytes.take count)
  read : ∀ w n want, 0 < want → (view n).toClient ≠ [] → ∃ count n',
    (socket.read want).run (w, n) = (.ok ((view n).toClient.take count), (w, n')) ∧
      0 < count ∧ count ≤ want ∧
      view n' = { view n with toClient := (view n).toClient.drop count }
  flush : ∀ w n, ∃ n', socket.flush.run (w, n) = (.ok (), (w, n')) ∧ view n' = view n
  shutdown : ∀ w n, ∃ result n', socket.shutdown.run (w, n) = (result, (w, n')) ∧
    view n' = view n

namespace Carries

variable {socket : Client.Socket (Action ε (σ × ν))} {view : ν → Loopback}

/-- Whatever the pieces are, all of the bytes arrive. By induction on how many are left:
a write passes on some, and the pieces arrive as if they were one. -/
theorem run_writeAll (h : Carries socket view) (w : σ) (n : ν) {bytes : Bytes}
    (hsome : bytes ≠ []) :
    ∃ n', (socket.writeAll bytes).run (w, n) = (.ok (), (w, n')) ∧
      view n' = (view n).arrive bytes := by
  induction hlength : bytes.length using Nat.strongRecOn generalizing n bytes with
  | ind length ih =>
    obtain ⟨count, n', hwrite, hpos, hle, hview⟩ := h.write w n bytes hsome
    rw [Stream.run_writeAll_more hsome hpos (congrArg Prod.fst hwrite), hwrite]
    have hcut : bytes.take count ++ bytes.drop count = bytes := List.take_append_drop count bytes
    -- nothing is left, or it is written as what arrived before it was
    by_cases hrest : bytes.drop count = []
    · refine ⟨n', ?_, ?_⟩
      · rw [hrest, Stream.writeAll]
        rfl
      · rw [hrest, List.append_nil] at hcut
        rw [hview, hcut]
    · have hshort : (bytes.drop count).length < length := by
        rw [← hlength, List.length_drop]
        omega
      obtain ⟨n'', hrun, hview'⟩ := ih _ hshort n' hrest rfl
      refine ⟨n'', hrun, ?_⟩
      rw [hview', hview, arrive_append, hcut]

/-- As many bytes as there are can be read, in their order. A read gives some of them,
and the others are read from what is left. -/
theorem run_readExact (h : Carries socket view) (w : σ) (n : ν) {count : Nat}
    (henough : count ≤ (view n).toClient.length) :
    ∃ n', (socket.readExact count).run (w, n) = (.ok ((view n).toClient.take count), (w, n')) ∧
      view n' = { view n with toClient := (view n).toClient.drop count } := by
  induction count using Nat.strongRecOn generalizing n with
  | ind count ih =>
    by_cases hzero : count = 0
    · refine ⟨n, ?_, ?_⟩
      · rw [hzero]
        exact Stream.run_readExact_zero
      · rw [hzero]
        rfl
    · have hsome : (view n).toClient ≠ [] := by
        intro hnone
        rw [hnone] at henough
        exact hzero (Nat.le_zero.mp henough)
      obtain ⟨got, n', hread, hpos, hle, hview⟩ :=
        h.read w n count (Nat.pos_of_ne_zero hzero) hsome
      have hlength : ((view n).toClient.take got).length = got := by
        rw [List.length_take]
        omega
      have htaken : (view n).toClient.take got ≠ [] := by
        rw [← List.length_pos_iff, hlength]
        exact hpos
      -- a read that gave less leaves enough for the rest
      have henough' : count - got ≤ (view n').toClient.length := by
        rw [hview]
        dsimp only
        rw [List.length_drop]
        omega
      obtain ⟨n'', hrun, hview'⟩ := ih (count - got) (by omega) n' henough'
      have hgot : got + (count - got) = count := by omega
      refine ⟨n'', ?_, ?_⟩
      · rw [Stream.run_readExact_more htaken (by omega) (congrArg Prod.fst hread), hread, hlength,
          hrun, hview]
        dsimp only
        rw [Except.map, ← List.take_add, hgot]
      · rw [hview', hview]
        dsimp only
        rw [List.drop_drop, hgot]

/-- A token that is sent is a frame that arrives. It is written in two pieces, but what
arrives in two pieces arrives as if it had been one. -/
theorem run_send (h : Carries socket view) (w : σ) (n : ν) {token : Bytes} (hsome : token ≠ [])
    (hsendable : token.length ≤ Frame.maxSendable) :
    ∃ n', (Frame.send socket.toStream token).run (w, n) = (.ok (), (w, n')) ∧
      view n' = (view n).arrive (Frame.encode token) := by
  have hprefix : Bytes.ofNatBE Frame.lengthSize token.length ≠ [] := by
    intro hnone
    have hlength := congrArg List.length hnone
    rw [Bytes.length_ofNatBE] at hlength
    cases hlength
  obtain ⟨n₁, hdeclare, hview₁⟩ := h.run_writeAll w n hprefix
  obtain ⟨n₂, hwrite, hview₂⟩ := h.run_writeAll w n₁ hsome
  obtain ⟨n₃, hflush, hview₃⟩ := h.flush w n₂
  refine ⟨n₃, ?_, ?_⟩
  · rw [Frame.send, if_neg hsome, if_neg (Nat.not_lt_of_le hsendable), Action.run_bind, hdeclare]
    dsimp only
    rw [Action.run_bind, hwrite]
    dsimp only
    rw [Action.run_bind, hflush]
    rfl
  · rw [hview₃, hview₂, hview₁, arrive_append, Frame.encode]

/-- A token is received if it is the first frame that the peer wrote, and it is not
too long. -/
theorem run_receive (h : Carries socket view) (w : σ) (n : ν) {token rest : Bytes} {bound : Nat}
    (hwritten : (view n).toClient = Frame.encode token ++ rest)
    (hsendable : token.length ≤ Frame.maxSendable) (hfits : token.length ≤ bound) :
    ∃ n', (Frame.receive socket.toStream bound).run (w, n) = (.ok token, (w, n')) ∧
      view n' = { view n with toClient := rest } := by
  have hlength : (view n).toClient.length = Frame.lengthSize + token.length + rest.length := by
    rw [hwritten, List.length_append, Frame.length_encode]
  -- the four bytes in front, and what is left after them
  have hfront : (view n).toClient.take Frame.lengthSize =
      (Frame.encode token).take Frame.lengthSize := by
    rw [hwritten, List.take_append_of_le_length (by rw [Frame.length_encode]; omega)]
  have hback : (view n).toClient.drop Frame.lengthSize = token ++ rest := by
    rw [hwritten, Frame.encode, List.append_assoc, List.drop_left' (Bytes.length_ofNatBE _ _)]
  have hsize : Frame.lengthSize ≤ (view n).toClient.length := by omega
  obtain ⟨n₁, hdeclared, hview₁⟩ := h.run_readExact w n hsize
  have henough : token.length ≤ (view n₁).toClient.length := by
    rw [hview₁, hback, List.length_append]
    omega
  obtain ⟨n₂, htoken, hview₂⟩ := h.run_readExact w n₁ henough
  refine ⟨n₂, ?_, ?_⟩
  · rw [Frame.receive, Action.run_bind, hdeclared]
    dsimp only
    rw [hfront, toNatBE_take_encode hsendable, if_neg (Nat.not_lt_of_le hfits), Action.run_bind,
      htoken, hview₁, hback, List.take_left]
    rfl
  · rw [hview₂, hview₁]
    dsimp only
    rw [hback, List.drop_left]

/-- A token that is sent is read, and answered. -/
theorem run_send_rests (h : Carries socket view) (w : σ) {n : ν} {peer peer' : Peer}
    {answers : List Bytes} (hrests : (view n).Rests peer [])
    (hreading : peer.phase.isReading = true) {token : Bytes} (hsome : token ≠ [])
    (hfits : token.length ≤ Frame.defaultBound) (hfeed : peer.feed token = (peer', answers)) :
    ∃ n', (Frame.send socket.toStream token).run (w, n) = (.ok (), (w, n')) ∧
      (view n').Rests peer' (answers.flatMap Frame.encode) := by
  obtain ⟨n', hrun, hview⟩ := h.run_send w n hsome (Nat.le_trans hfits (by decide))
  refine ⟨n', hrun, ?_⟩
  rw [hview]
  exact hrests.arrive hreading hfits hfeed

/-- An answer that was written is received. -/
theorem run_receive_rests (h : Carries socket view) (w : σ) {n : ν} {peer : Peer} {token : Bytes}
    (hrests : (view n).Rests peer ([token].flatMap Frame.encode)) {bound : Nat}
    (hbound : bound ≤ Frame.maxSendable) (hfits : token.length ≤ bound) :
    ∃ n', (Frame.receive socket.toStream bound).run (w, n) = (.ok token, (w, n')) ∧
      (view n').Rests peer [] := by
  obtain ⟨n', hrun, hview⟩ :=
    h.run_receive w n hrests.toClient (Nat.le_trans hfits hbound) hfits
  exact ⟨n', hrun, by rw [hview]; exact hrests.peer, by rw [hview]; exact hrests.toPeer,
    by rw [hview]; rfl⟩

/-- That the client is gone makes no difference to what was carried. -/
theorem run_close (h : Carries socket view) (w : σ) (n : ν) (bound : Nat) :
    ∃ n', ((Client.Network.channel socket bound).close.run (w, n)).2 = (w, n') ∧
      view n' = view n := by
  obtain ⟨result, n', hrun, hview⟩ := h.shutdown w n
  refine ⟨n', ?_, hview⟩
  rw [Client.Network.channel, Action.run_bind, hrun]
  cases result <;> rfl

end Carries

/-! ## A slow stream

There are such streams. This one moves a fixed number of bytes at a time, one if need
be. -/

/-- A socket on the network in memory that moves only so many bytes at a time. -/
def slowSocket (limit : Nat) : Client.Socket (Action ε (σ × Loopback)) where
  read want := Action.onSnd (Action.step (Loopback.read (min want limit)))
  write bytes := Action.onSnd (Action.step fun l =>
    (.ok (min bytes.length limit), l.arrive (bytes.take (min bytes.length limit))))
  flush := pure (.ok ())
  setTimeout _ := pure (.ok ())
  shutdown := pure (.ok ())

/-- It may take its time, but it carries everything. -/
theorem slowSocket_carries {limit : Nat} (hlimit : 0 < limit) :
    Carries (slowSocket limit : Client.Socket (Action ε (σ × Loopback))) id where
  write w l bytes hsome := by
    have hpos : 0 < bytes.length := List.length_pos_iff.mpr hsome
    exact ⟨min bytes.length limit, _, rfl, by omega, Nat.min_le_left _ _, rfl⟩
  read w l want hwant hsome := by
    have hread : l.read (min want limit) = (.ok (l.toClient.take (min want limit)),
        { l with toClient := l.toClient.drop (min want limit) }) := if_neg hsome
    refine ⟨min want limit, _, ?_, by omega, Nat.min_le_left _ _, rfl⟩
    change ((l.read (min want limit)).1, (w, (l.read (min want limit)).2)) = _
    rw [hread]
    rfl
  flush w l := ⟨l, rfl, rfl⟩
  shutdown w l := ⟨.ok (), l, rfl, rfl⟩

end Rehearsal

end GssContext
