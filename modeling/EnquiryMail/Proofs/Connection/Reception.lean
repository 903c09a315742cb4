/-
How a connection takes in one complete reply. The bytes spell the lines of the reply, each ended by a line feed with
or without a carriage return before it; a reader that waits is answered with exactly these lines, however the bytes
were cut into packets, and nothing is left behind.

- `feed_spelt`: the bytes of a complete reply answer the reader.
- `receive_open`: a delivery on the current socket is taken in as its bytes, however they were cut.
- `remaining_deadline`: a reader waits for the whole of its time limit.
-/
import EnquiryMail.Proofs.Connection.Protection
import EnquiryMail.Proofs.Number.Exact
import EnquiryMail.Proofs.Text.Encodings

namespace EnquiryMail.Smtp

open Text.Utf8 (Bytes)

/-- the lines of a complete reply: the last one ends it, and none before -/
inductive Complete : List String → Prop
  | last {line : String} (h : isFinalLine line = true) : Complete [line]
  | more {line : String} {lines : List String} (h : isFinalLine line = false) (rest : Complete lines) :
      Complete (line :: lines)

/-- a text that can be sent as a line: no line feed in it, and no carriage return at its end -/
def Sendable (line : String) : Prop := '\n' ∉ line.toList ∧ line.toList.getLast? ≠ some '\r'

/-- bytes that spell lines, each ended by LF or CRLF -/
inductive Spells : List String → Bytes → Prop
  | nil : Spells [] []
  | lf {line : String} {lines : List String} {bs : Bytes} (h : Sendable line) (rest : Spells lines bs) :
      Spells (line :: lines) (utf8 line ++ 10 :: bs)
  | crlf {line : String} {lines : List String} {bs : Bytes} (h : Sendable line) (rest : Spells lines bs) :
      Spells (line :: lines) (utf8 line ++ 13 :: 10 :: bs)

theorem complete_iff {lines : List String} : Complete lines ↔ Connection.splitReply lines = some (lines, []) := by
  constructor
  · intro h
    induction h with
    | last h => rw [Connection.splitReply, if_pos h]
    | more h _ ih => rw [Connection.splitReply, h, if_neg Bool.false_ne_true, ih]; rfl
  · intro h
    induction lines with
    | nil => cases h
    | cons line lines ih =>
      rw [Connection.splitReply] at h
      cases hfinal : isFinalLine line with
      | true =>
        rw [hfinal, if_pos rfl] at h
        obtain rfl : lines = [] := by simpa using h
        exact .last hfinal
      | false =>
        rw [hfinal, if_neg Bool.false_ne_true] at h
        refine .more hfinal (ih ?_)
        cases hsplit : Connection.splitReply lines with
        | none => rw [hsplit] at h; cases h
        | some p =>
          obtain ⟨got, rest⟩ := p
          rw [hsplit] at h
          simpa using h

instance (lines : List String) : Decidable (Complete lines) := decidable_of_iff _ complete_iff.symm

instance (line : String) : Decidable (Sendable line) := inferInstanceAs (Decidable (_ ∧ _))

namespace Connection

/-! ## Bytes into lines -/

theorem feed_cons (now : Int) (b : UInt8) (bs : Bytes) (c : Connection) :
    feed now (b :: bs) c = andThen (feedByte now c b) (feed now bs) := by
  rw [← List.singleton_append, feed_append]
  rfl

/-- without a line feed nothing is done -/
theorem feed_of_not_mem (now : Int) {bs : Bytes} (h : 10 ∉ bs) (c : Connection) :
    feed now bs c = ({ c with buffer := bs.reverse ++ c.buffer }, []) := by
  induction bs generalizing c with
  | nil => rfl
  | cons b bs ih =>
    have hb : b ≠ 10 := fun hb => h (hb ▸ List.mem_cons_self)
    have hbs : 10 ∉ bs := fun hm => h (List.mem_cons_of_mem b hm)
    rw [feed_cons, feedByte, if_neg hb, andThen, ih hbs, List.reverse_cons, List.append_assoc]
    rfl

/-- a text without line feed, and a line feed -/
theorem feed_encoded (now : Int) {cs : List Char} (h : '\n' ∉ cs) (bs : Bytes) {c : Connection} (hc : c.buffer = []) :
    feed now (Text.Utf8.encode cs ++ 10 :: bs) c =
      andThen (pushLine now (String.ofList (chop cs)) c) (feed now bs) := by
  have hbytes : 10 ∉ Text.Utf8.encode cs := fun hm => h (Text.Utf8.mem_encode (by decide) hm)
  have hempty : { c with buffer := [] } = c := by rw [← hc]
  rw [feed_append, feed_of_not_mem now hbytes]
  show andThen (_, []) (feed now (10 :: bs)) = _
  simp only [andThen, feed_cons, feedByte, if_pos, hc, List.append_nil, List.reverse_reverse,
    Text.Utf8.decode_encode, List.nil_append]
  rw [hempty]

theorem chop_of_sendable {line : String} (h : Sendable line) : chop line.toList = line.toList := if_neg h.2

theorem chop_concat (cs : List Char) : chop (cs ++ ['\r']) = cs := by
  rw [chop, if_pos List.getLast?_concat, List.dropLast_concat]

theorem feed_lf (now : Int) {line : String} (h : Sendable line) (bs : Bytes) {c : Connection} (hc : c.buffer = []) :
    feed now (utf8 line ++ 10 :: bs) c = andThen (pushLine now line c) (feed now bs) := by
  rw [utf8, feed_encoded now h.1 bs hc, chop_of_sendable h, String.ofList_toList]

theorem feed_crlf (now : Int) {line : String} (h : Sendable line) (bs : Bytes) {c : Connection} (hc : c.buffer = []) :
    feed now (utf8 line ++ 13 :: 10 :: bs) c = andThen (pushLine now line c) (feed now bs) := by
  have hbreak : '\n' ∉ line.toList ++ ['\r'] := by
    intro hm
    rcases List.mem_append.1 hm with hm | hm
    · exact h.1 hm
    · exact absurd (List.mem_singleton.1 hm) (by decide)
  have hbytes : utf8 line ++ 13 :: 10 :: bs = Text.Utf8.encode (line.toList ++ ['\r']) ++ 10 :: bs := by
    rw [Text.Utf8.encode_append, List.append_assoc]
    rfl
  rw [hbytes, feed_encoded now hbreak bs hc, chop_concat, String.ofList_toList]

/-! ## Lines into replies -/

/-- effects that only set or cancel the alarm of a reader -/
def Timing (id : Nat) (es : List Effect) : Prop :=
  ∀ e ∈ es, e = .disarm (.read id) ∨ ∃ delay, e = .arm (.read id) delay

theorem timing_nil (id : Nat) : Timing id [] := List.forall_mem_nil _

/-- how a reader is answered with a reply -/
def delivered (id : Nat) (lines : List String) : List Effect :=
  [.disarm (.read id)] ++ traceReply lines ++ [.answered id (.ok (Reply.ofLines lines))]

/-- one line of a reply: either it is the last, or the reader goes on -/
theorem pushLine_final (now : Int) {line : String} (h : isFinalLine line = true) {c : Connection} {r : Reader}
    (hr : c.pending = some r) :
    pushLine now line c = ({ c with pending := none }, delivered r.id (r.got ++ [line])) := by
  simp only [pushLine, hr, h, if_true]
  rfl

theorem pushLine_more (now : Int) {line : String} (h : isFinalLine line = false) {c : Connection} {r : Reader}
    (hr : c.pending = some r) :
    pushLine now line c = ({ c with pending := some { r with got := r.got ++ [line] } },
      [.disarm (.read r.id), .arm (.read r.id) (remaining now r.deadline)]) := by
  simp only [pushLine, hr, h, Bool.false_eq_true, if_false]

/-- **The bytes of a complete reply answer the reader with its lines**, and nothing is left. -/
theorem feed_spelt (now : Int) {lines : List String} (hlines : Complete lines) {bs : Bytes} (hbs : Spells lines bs)
    {c : Connection} (hc : c.buffer = []) {r : Reader} (hr : c.pending = some r) :
    ∃ es, Timing r.id es ∧
      feed now bs c = ({ c with pending := none }, es ++ delivered r.id (r.got ++ lines)) := by
  induction hlines generalizing bs c r with
  | @last line hfinal =>
    have hfed : feed now bs c = andThen (pushLine now line c) (feed now []) := by
      cases hbs with
      | lf h rest => cases rest; exact feed_lf now h [] hc
      | crlf h rest => cases rest; exact feed_crlf now h [] hc
    refine ⟨[], timing_nil r.id, ?_⟩
    rw [hfed, pushLine_final now hfinal hr]
    exact congrArg (Prod.mk _) (List.append_nil _)
  | @more line lines hmore _ ih =>
    obtain ⟨bs', hrest, hfed⟩ : ∃ bs', Spells lines bs' ∧
        feed now bs c = andThen (pushLine now line c) (feed now bs') := by
      cases hbs with
      | lf h rest => exact ⟨_, rest, feed_lf now h _ hc⟩
      | crlf h rest => exact ⟨_, rest, feed_crlf now h _ hc⟩
    obtain ⟨es, htiming, hfeed⟩ :=
      ih hrest (c := { c with pending := some { r with got := r.got ++ [line] } }) hc rfl
    refine ⟨[.disarm (.read r.id), .arm (.read r.id) (remaining now r.deadline)] ++ es, ?_, ?_⟩
    · intro e he
      rcases List.mem_append.1 he with he | he
      · rcases List.mem_cons.1 he with rfl | he
        · exact .inl rfl
        · exact .inr ⟨_, List.mem_singleton.1 he⟩
      · exact htiming e he
    · rw [hfed, pushLine_more now hmore hr, andThen, hfeed, List.append_assoc, List.append_assoc]
      rfl

/-- the packets of a delivery on the current socket -/
theorem receive_open (now : Int) (packets : List Bytes) {c : Connection} (hlive : c.socket.live = true)
    (hheard : c.socket.heard = true) :
    Net.Network.receive now c.socket.layer packets none c = feed now packets.flatten c := by
  rw [Net.Network.receive, if_pos ⟨rfl, hlive⟩, arrive, if_pos hheard]
  exact congrArg (Prod.mk _) (List.append_nil _)

/-! ## Time limits -/

/-- **A reader waits for the whole of its limit**, as long as clock readings are exact. -/
theorem remaining_deadline {now : Int} {a : Amount} {limit : Nat} (ha : a = .number (.finite limit))
    (hpos : 1 ≤ limit) (hle : limit ≤ Time.longestDelay) (hnow : now.natAbs < 2 ^ 53)
    (hdue : (now + limit).natAbs < 2 ^ 53) : remaining now (a.deadline now) = limit := by
  have hclock : Number.ofInt now = .finite now := Number.nearest_intCast hnow
  have hsum : ((now : Rat) + (limit : Rat)) = ((now + limit : Int) : Rat) := by push_cast; rfl
  have hleft : (((now + limit : Int) : Rat) - (now : Rat)) = ((limit : Int) : Rat) := by push_cast; ring
  have hlong : Time.longestDelay < 2 ^ 53 := by decide
  have hdeadline : a.deadline now = .finite ((now + limit : Int) : Rat) := by
    rw [ha]
    show Number.add (Number.ofInt now) (.finite limit) = _
    rw [hclock]
    show Number.nearest (now + limit) = _
    rw [hsum, Number.nearest_intCast hdue]
  have hremaining : Number.sub (a.deadline now) (Number.ofInt now) = .finite (limit : Rat) := by
    rw [hdeadline, hclock]
    show Number.nearest _ = _
    rw [hleft, Number.nearest_intCast (by omega), Int.cast_natCast]
  have hcount : Number.lt (.finite (limit : Rat)) 0 = false :=
    decide_eq_false (Rat.not_lt.2 (Nat.cast_nonneg limit))
  rw [remaining, hremaining, hcount, if_neg Bool.false_ne_true, Time.delayOf_natCast hpos hle]

end Connection

end EnquiryMail.Smtp
