import Usbfluxd.Model.Control

/-!
# Reading the reply to a query

The receive loop ends when it has all bytes or `recv` fails, and `recv` does
not fail when the stream is over: it returns 0, again and again. So a reply
that is shorter than its header says keeps the tool waiting for ever
(`receivePayload_stalls`), and so does a length below 16, which makes the loop
wait for nearly 4 GiB.

There is one way out. With no memory for the payload the loop receives into
`NULL`, which fails when there is a byte to receive.
-/

namespace Usbfluxd

/-! ## The receive loop -/

section Loop

variable {chunk : Nat → Nat} {mapped : Bool} {total fuel i : Nat} {stream got : List UInt8}

/-- With all bytes to come, each turn brings some of them, and there are at
most as many turns as bytes. -/
theorem receivePayload_complete (hpos : ∀ i, 0 < chunk i) (hgot : got.length ≤ total)
    (hbytes : total ≤ got.length + stream.length) (hfuel : total - got.length < fuel) :
    receivePayload chunk true total fuel i stream got =
      some (got ++ stream.take (total - got.length)) := by
  induction fuel generalizing i stream got with
  | zero => exact absurd hfuel (Nat.not_lt_zero _)
  | succ fuel ih =>
      rw [receivePayload]
      by_cases hmore : got.length < total
      · have hchunk := hpos i
        rw [if_pos hmore]
        dsimp only
        rw [if_neg (by simp)]
        generalize hr : min (chunk i) (min (total - got.length) stream.length) = r
        have hlen : (got ++ stream.take r).length = got.length + r := by
          rw [List.length_append, List.length_take]
          omega
        have htake : stream.take (total - got.length) =
            stream.take r ++ (stream.drop r).take (total - got.length - r) := by
          rw [← List.take_add]
          congr 1
          omega
        rw [ih (by omega) (by rw [hlen, List.length_drop]; omega) (by omega), hlen, htake,
          List.append_assoc, Nat.sub_sub]
      · rw [if_neg hmore, Nat.sub_eq_zero_of_le (by omega), List.take_zero, List.append_nil]

/-- With too few bytes to come the loop never ends, unless `recv` fails. -/
theorem receivePayload_stalls (hbytes : got.length + stream.length < total)
    (hstalls : mapped = true ∨ stream = []) :
    receivePayload chunk mapped total fuel i stream got = none := by
  induction fuel generalizing i stream got with
  | zero => rfl
  | succ fuel ih =>
      rw [receivePayload, if_pos (by omega)]
      dsimp only
      generalize hr : min (chunk i) (min (total - got.length) stream.length) = r
      have hgoes : ¬ (0 < r ∧ mapped = false) := by
        intro hfails
        rcases hstalls with hmapped | hnil
        · rw [hmapped] at hfails
          cases hfails.2
        · rw [hnil, List.length_nil] at hr
          omega
      rw [if_neg hgoes]
      refine ih ?_ (hstalls.imp_right fun hnil => ?_)
      · rw [List.length_append, List.length_take, List.length_drop]
        omega
      · rw [hnil, List.drop_nil]

/-- The first `recv` into `NULL` fails when there is a byte. -/
theorem receivePayload_fails (hpos : ∀ i, 0 < chunk i) (hmore : got.length < total)
    (hbyte : stream ≠ []) :
    receivePayload chunk false total (fuel + 1) i stream got = some got := by
  have hchunk := hpos i
  have hlen := List.length_pos_iff.mpr hbyte
  rw [receivePayload, if_pos hmore]
  dsimp only
  rw [if_pos ⟨by omega, rfl⟩]

/-- A loop that has ended is not changed by more turns. -/
theorem receivePayload_stable {out : List UInt8} (more : Nat)
    (h : receivePayload chunk mapped total fuel i stream got = some out) :
    receivePayload chunk mapped total (fuel + more) i stream got = some out := by
  induction fuel generalizing i stream got with
  | zero => cases h
  | succ fuel ih =>
      rw [Nat.succ_add, receivePayload]
      rw [receivePayload] at h
      by_cases hmore : got.length < total
      · rw [if_pos hmore] at h ⊢
        dsimp only at h ⊢
        split at h
        · next hfails =>
            rw [if_pos hfails]
            exact h
        · next hgoes =>
            rw [if_neg hgoes]
            exact ih h
      · rw [if_neg hmore] at h ⊢
        exact h

end Loop

/-! ## The reply -/

/-- The header is one the tool goes on with. -/
def ReplyAccepted (stream : List UInt8) : Prop :=
  headerSize ≤ stream.length ∧ (streamHeader stream).version = 1 ∧
    (streamHeader stream).message = messagePlist ∧ (streamHeader stream).tag = 0

/-- The payload bytes a header announces, when there are any to announce. -/
def announcedBytes (stream : List UInt8) : List UInt8 :=
  (stream.drop headerSize).take ((streamHeader stream).length.toNat - headerSize)

/-- All of an accepted reply arrives. -/
def ReplyComplete (stream : List UInt8) : Prop :=
  ReplyAccepted stream ∧ headerSize ≤ (streamHeader stream).length.toNat ∧
    (streamHeader stream).length.toNat ≤ stream.length

/-- The query returns, and hands over the payload of a complete reply and
nothing else. -/
def ExactQuery (query : Nat → Option (Option (List UInt8))) (stream : List UInt8) : Prop :=
  (∃ fuel, (query fuel).isSome) ∧ ∀ fuel handed, query fuel = some handed →
    ∀ payload, handed = some payload ↔ ReplyComplete stream ∧ payload = announcedBytes stream

/-- There is memory for the number of bytes the tool waits for. -/
def HasBuffer (bufSize : Nat) (malloc : Nat → Bool) (stream : List UInt8) : Prop :=
  ((streamHeader stream).length - 16).toNat ≤ bufSize ∨
    malloc ((streamHeader stream).length - 16).toNat = true

section Query

variable {bufSize fuel : Nat} {malloc : Nat → Bool} {chunk : Nat → Nat} {stream : List UInt8}
  {query : Nat → Option (Option (List UInt8))} {handed : Option (List UInt8)}

/-- A query with one outcome. -/
theorem exactQuery_iff (hreturns : ∃ fuel, query fuel = some handed)
    (hunique : ∀ fuel handed', query fuel = some handed' → handed' = handed) :
    ExactQuery query stream ↔ ∀ payload, handed = some payload ↔
      ReplyComplete stream ∧ payload = announcedBytes stream := by
  obtain ⟨fuel, hfuel⟩ := hreturns
  constructor
  · intro h
    exact h.2 fuel handed hfuel
  · intro h
    refine ⟨⟨fuel, by rw [hfuel]; rfl⟩, fun fuel' handed' hquery => ?_⟩
    rw [hunique fuel' handed' hquery]
    exact h

/-- A query that hands nothing over. -/
theorem nothing_iff : (∀ payload, (none : Option (List UInt8)) = some payload ↔
    ReplyComplete stream ∧ payload = announcedBytes stream) ↔ ¬ ReplyComplete stream := by
  constructor
  · intro h hcomplete
    cases (h _).mpr ⟨hcomplete, rfl⟩
  · intro hnot payload
    exact ⟨fun h => (nomatch h), fun h => absurd h.1 hnot⟩

theorem queryReply_refused (h : ¬ ReplyAccepted stream) :
    queryReply bufSize malloc chunk fuel stream = some none := by
  rw [queryReply]
  split
  · rfl
  · next hlong => exact if_neg fun haccepted => h ⟨by omega, haccepted⟩

theorem queryReply_accepted (h : ReplyAccepted stream) :
    queryReply bufSize malloc chunk fuel stream =
      (receivePayload chunk
        (decide (((streamHeader stream).length - 16).toNat ≤ bufSize) ||
          malloc ((streamHeader stream).length - 16).toNat)
        ((streamHeader stream).length - 16).toNat fuel 0 (stream.drop headerSize) []).map fun got =>
          if got.length = ((streamHeader stream).length - 16).toNat then some got else none := by
  rw [queryReply, if_neg (Nat.not_lt.mpr h.1)]
  exact if_pos h.2

/-- The number of bytes to wait for, with and without a wrap. -/
theorem toNat_length_sub {n : UInt32} : (16 ≤ n.toNat ∧ (n - 16).toNat = n.toNat - 16) ∨
    (n.toNat < 16 ∧ (n - 16).toNat = n.toNat + (2 ^ 32 - 16)) := by
  have hn := n.toNat_lt
  have hsub : (n - 16).toNat = (2 ^ 32 - 16 + n.toNat) % 2 ^ 32 := UInt32.toNat_sub n 16
  omega

/-- The loop never ends, and neither does the query. -/
theorem not_exactQuery_of_stalls (h : ∀ fuel, query fuel = none) : ¬ ExactQuery query stream := by
  intro hexact
  obtain ⟨fuel, hfuel⟩ := hexact.1
  rw [h fuel] at hfuel
  cases hfuel

/-- With memory for what it waits for, the query is exact if and only if the
reply is complete. -/
theorem queryReply_mapped (hpos : ∀ i, 0 < chunk i) (haccepted : ReplyAccepted stream)
    (hbuf : HasBuffer bufSize malloc stream) :
    ExactQuery (fun fuel => queryReply bufSize malloc chunk fuel stream) stream ↔
      ReplyComplete stream := by
  have hmapped : (decide (((streamHeader stream).length - 16).toNat ≤ bufSize) ||
      malloc ((streamHeader stream).length - 16).toNat) = true := by
    rw [Bool.or_eq_true, decide_eq_true_eq]
    exact hbuf
  have hquery : ∀ fuel, queryReply bufSize malloc chunk fuel stream = _ :=
    fun fuel => queryReply_accepted haccepted
  simp only [hmapped] at hquery
  have hlong := haccepted.1
  rw [headerSize] at hlong
  have hrest : (stream.drop headerSize).length = stream.length - 16 := List.length_drop
  have htotal := @toNat_length_sub (streamHeader stream).length
  generalize hn : ((streamHeader stream).length - 16).toNat = total at hquery htotal
  by_cases henough : total ≤ stream.length - 16
  · have hcomplete : ReplyComplete stream ↔ 16 ≤ (streamHeader stream).length.toNat := by
      constructor
      · exact fun h => h.2.1
      · intro h
        refine ⟨haccepted, h, ?_⟩
        omega
    have hreceived : receivePayload chunk true total (total + 1) 0 (stream.drop headerSize) [] =
        some ((stream.drop headerSize).take total) := by
      rw [receivePayload_complete hpos (Nat.zero_le _) (by rw [hrest, List.length_nil]; omega)
        (by rw [List.length_nil]; omega)]
      rfl
    have hlength : ((stream.drop headerSize).take total).length = total := by
      rw [List.length_take, hrest]
      omega
    have hhanded : queryReply bufSize malloc chunk (total + 1) stream =
        some (some ((stream.drop headerSize).take total)) := by
      rw [hquery, hreceived, Option.map_some, if_pos hlength]
    rw [exactQuery_iff ⟨total + 1, hhanded⟩ fun fuel handed h => ?_]
    · constructor
      · intro h
        exact ((h _).mp rfl).1
      · intro h payload
        have hsame : (stream.drop headerSize).take total = announcedBytes stream := by
          rw [announcedBytes, headerSize]
          have h16 := hcomplete.mp h
          congr 1
          omega
        rw [hsame, Option.some_inj]
        exact ⟨fun heq => ⟨h, heq.symm⟩, fun heq => heq.2.symm⟩
    · rw [hquery] at h
      obtain ⟨out, hout, rfl⟩ := Option.map_eq_some_iff.mp h
      have hlate := receivePayload_stable (total + 1) hout
      have hlate' := receivePayload_stable fuel hreceived
      rw [Nat.add_comm] at hlate'
      obtain rfl := Option.some.inj (hlate.symm.trans hlate')
      rw [if_pos hlength]
  · refine iff_of_false (not_exactQuery_of_stalls fun fuel => ?_) fun hcomplete => ?_
    · rw [hquery, receivePayload_stalls (by rw [hrest, List.length_nil]; omega) (Or.inl rfl)]
      rfl
    · obtain ⟨_, h16, hall⟩ := hcomplete
      rw [headerSize] at h16
      omega

/-- Without it the query hands nothing over, and ends when a byte comes. -/
theorem queryReply_unmapped (hpos : ∀ i, 0 < chunk i) (haccepted : ReplyAccepted stream)
    (hbuf : ¬ HasBuffer bufSize malloc stream) :
    ExactQuery (fun fuel => queryReply bufSize malloc chunk fuel stream) stream ↔
      ¬ ReplyComplete stream ∧ headerSize < stream.length := by
  rw [HasBuffer, not_or] at hbuf
  have hmapped : (decide (((streamHeader stream).length - 16).toNat ≤ bufSize) ||
      malloc ((streamHeader stream).length - 16).toNat) = false := by
    rw [Bool.or_eq_false_iff, decide_eq_false_iff_not]
    exact ⟨hbuf.1, Bool.eq_false_iff.mpr hbuf.2⟩
  have hquery : ∀ fuel, queryReply bufSize malloc chunk fuel stream = _ :=
    fun fuel => queryReply_accepted haccepted
  simp only [hmapped] at hquery
  have hlong := haccepted.1
  generalize hn : ((streamHeader stream).length - 16).toNat = total at hquery hbuf
  have htotal : ([] : List UInt8).length < total := by
    rw [List.length_nil]
    omega
  by_cases hbyte : headerSize < stream.length
  · have hne : stream.drop headerSize ≠ [] := by
      rw [ne_eq, List.drop_eq_nil_iff]
      omega
    have hfails : ∀ fuel, queryReply bufSize malloc chunk (fuel + 1) stream = some none := by
      intro fuel
      rw [hquery, receivePayload_fails hpos htotal hne, Option.map_some, if_neg (by omega)]
    rw [exactQuery_iff ⟨1, hfails 0⟩ fun fuel handed h => ?_, nothing_iff]
    · exact (and_iff_left hbyte).symm
    · cases fuel with
      | zero =>
          rw [hquery] at h
          cases h
      | succ fuel =>
          rw [hfails] at h
          exact (Option.some.inj h).symm
  · have hnil : stream.drop headerSize = [] := by
      rw [List.drop_eq_nil_iff]
      omega
    refine iff_of_false (not_exactQuery_of_stalls fun fuel => ?_) fun h => hbyte h.2
    rw [hquery, receivePayload_stalls (by rw [hnil]; exact htotal) (Or.inr hnil)]
    rfl

/-- The query returns, with just the bytes it should hand over, if and only if
the header is refused, or the reply is complete and there is memory for it, or
it is not and there is none. -/
theorem queryReply_exact_iff (hpos : ∀ i, 0 < chunk i) :
    ExactQuery (fun fuel => queryReply bufSize malloc chunk fuel stream) stream ↔
      ¬ ReplyAccepted stream ∨ (ReplyComplete stream ∧ HasBuffer bufSize malloc stream) ∨
        (¬ ReplyComplete stream ∧ ¬ HasBuffer bufSize malloc stream ∧
          headerSize < stream.length) := by
  by_cases haccepted : ReplyAccepted stream
  · by_cases hbuf : HasBuffer bufSize malloc stream
    · rw [queryReply_mapped hpos haccepted hbuf]
      simp [haccepted, hbuf]
    · rw [queryReply_unmapped hpos haccepted hbuf]
      simp [haccepted, hbuf]
  · have hnot : ¬ ReplyComplete stream := fun h => haccepted h.1
    have hrefused : ∀ fuel, queryReply bufSize malloc chunk fuel stream = some none :=
      fun fuel => queryReply_refused haccepted
    rw [exactQuery_iff ⟨0, hrefused 0⟩ fun fuel handed h => ?_, nothing_iff]
    · exact iff_of_true hnot (Or.inl haccepted)
    · rw [hrefused] at h
      exact (Option.some.inj h).symm

/-- `usbfluxctl` has a buffer of 4096 bytes. -/
theorem usbfluxdQuery_exact_iff (hpos : ∀ i, 0 < chunk i) :
    ExactQuery (fun fuel => usbfluxdQuery malloc chunk fuel stream) stream ↔
      ¬ ReplyAccepted stream ∨ (ReplyComplete stream ∧ HasBuffer 4096 malloc stream) ∨
        (¬ ReplyComplete stream ∧ ¬ HasBuffer 4096 malloc stream ∧
          headerSize < stream.length) :=
  queryReply_exact_iff hpos

/-- The menu bar application has one of 65536 bytes, and the same loop. -/
theorem usbfluxdQueryGui_exact_iff (hpos : ∀ i, 0 < chunk i) :
    ExactQuery (fun fuel => usbfluxdQueryGui malloc chunk fuel stream) stream ↔
      ¬ ReplyAccepted stream ∨ (ReplyComplete stream ∧ HasBuffer 65536 malloc stream) ∨
        (¬ ReplyComplete stream ∧ ¬ HasBuffer 65536 malloc stream ∧
          headerSize < stream.length) :=
  queryReply_exact_iff hpos

end Query

/-- A header that announces some payload bytes. -/
def replyHeader (bytes : Nat) : List UInt8 :=
  ({ length := UInt32.ofNat (headerSize + bytes), version := 1, message := messagePlist,
     tag := 0 : Header }).bytes

theorem usbfluxdQuery_exact_iff_threeBytes :
    ExactQuery (fun fuel => usbfluxdQuery (fun _ => true) (fun _ => 2) fuel
      (replyHeader 3 ++ [1, 2, 3])) (replyHeader 3 ++ [1, 2, 3]) := by
  have haccepted : ReplyAccepted (replyHeader 3 ++ [1, 2, 3]) := by
    refine ⟨by decide, by decide, by decide, by decide⟩
  refine (usbfluxdQuery_exact_iff fun _ => by decide).mpr (Or.inr (Or.inl ⟨?_, Or.inr rfl⟩))
  exact ⟨haccepted, by decide, by decide⟩

/-- The daemon goes away after the header, and the query never returns. -/
theorem query_waits_for_ever :
    (∀ fuel, usbfluxdQuery (fun _ => true) (fun _ => 2) fuel (replyHeader 4) = none) ∧
      ¬ ExactQuery (fun fuel => usbfluxdQuery (fun _ => true) (fun _ => 2) fuel (replyHeader 4))
        (replyHeader 4) := by
  have haccepted : ReplyAccepted (replyHeader 4) := by
    refine ⟨by decide, by decide, by decide, by decide⟩
  have hstalls : ∀ fuel,
      usbfluxdQuery (fun _ => true) (fun _ => 2) fuel (replyHeader 4) = none := by
    intro fuel
    rw [usbfluxdQuery, queryReply_accepted haccepted,
      receivePayload_stalls (by decide) (Or.inl (by decide))]
    rfl
  exact ⟨hstalls, not_exactQuery_of_stalls hstalls⟩

end Usbfluxd
