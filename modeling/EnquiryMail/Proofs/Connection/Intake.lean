/-
What a connection does with the bytes that arrive. They are cut at line feeds, however they come in packets. The lines
go to the reader that waits, until one of them ends its reply; all others are queued. When the connection ends, what is
left without a line feed is a last line, and whoever still waits is told why.

- `linesOf_append`, `restOf_append`: the lines of bytes that come in two parts, and what is left of them.
- `feed_eq`: taking bytes in is taking in their lines.
- `pushLines_unread`, `pushLines_waiting`, `pushLines_answered`: lines that nobody waits for, lines that leave the
  reader waiting, and lines that answer it.
- `agree_pushLines`: they change nothing else.
- `read_queued`, `read_ended`, `read_open`: a reader that is answered at once, and one that is to wait.
- `finish_eq`: the end of a connection takes the last line in, then turns down whoever waits.
-/
import EnquiryMail.Proofs.Connection.Reception

namespace EnquiryMail.Smtp

open Text.Utf8 (Bytes)

/-! ## Lines of bytes -/

/-- a line as it is read: the carriage return at its end is dropped -/
def lineOf (piece : Bytes) : String := String.ofList (Connection.chop (Text.Utf8.decode piece))

/-- the lines of bytes, each ended by a line feed -/
def linesOf (bs : Bytes) : List String := (bs.splitOn 10).dropLast.map lineOf

/-- the bytes behind the last line feed -/
def restOf (bs : Bytes) : Bytes := (bs.splitOn 10).getLastD []

/-- a last line that no line feed ends; it is read as it is -/
def lastLine (rest : Bytes) : List String := if rest.isEmpty then [] else [ofUtf8 rest]

theorem splitOn_terminated (pieces : List Bytes) (h : ∀ p ∈ pieces, 10 ∉ p) (bs : Bytes) :
    ((pieces.map (· ++ [10])).flatten ++ bs).splitOn 10 = pieces ++ bs.splitOn 10 := by
  induction pieces with
  | nil => rfl
  | cons p pieces ih =>
    obtain ⟨hp, hrest⟩ := List.forall_mem_cons.1 h
    have hsingle : p.splitOn 10 = [p] := List.splitOnP_eq_singleton fun b hb => by
      simpa using fun hb10 : b = 10 => hp (hb10 ▸ hb)
    have hcut : ((p :: pieces).map (· ++ [10])).flatten ++ bs = p ++ 10 :: ((pieces.map (· ++ [10])).flatten ++ bs) := by
      simp
    rw [hcut, List.splitOn, List.splitOnP_append_cons _ _ (by rfl)]
    show p.splitOn 10 ++ List.splitOn 10 _ = _
    rw [hsingle, ih hrest]
    rfl

/-- bytes are their pieces, each with its line feed, and a rest -/
theorem exists_pieces (bs : Bytes) :
    ∃ pieces : List Bytes, (∀ p ∈ pieces, 10 ∉ p) ∧ 10 ∉ restOf bs ∧ linesOf bs = pieces.map lineOf ∧
      bs = (pieces.map (· ++ [10])).flatten ++ restOf bs := by
  have hcut : ∃ (pieces : List Bytes) (rest : Bytes), (∀ p ∈ pieces, 10 ∉ p) ∧ 10 ∉ rest ∧
      bs = (pieces.map (· ++ [10])).flatten ++ rest := by
    induction bs using List.reverseRecOn with
    | nil => exact ⟨[], [], List.forall_mem_nil _, List.not_mem_nil, rfl⟩
    | append_singleton bs b ih =>
      obtain ⟨pieces, rest, hpieces, hrest, hbs⟩ := ih
      by_cases hb : b = 10
      · refine ⟨pieces ++ [rest], [], ?_, List.not_mem_nil, by simp [hbs, hb]⟩
        intro p hp
        rcases List.mem_append.1 hp with hp | hp
        · exact hpieces p hp
        · rwa [List.mem_singleton.1 hp]
      · refine ⟨pieces, rest ++ [b], hpieces, ?_, by simp [hbs]⟩
        intro hm
        rcases List.mem_append.1 hm with hm | hm
        · exact hrest hm
        · exact hb (List.mem_singleton.1 hm).symm
  obtain ⟨pieces, rest, hpieces, hrest, hbs⟩ := hcut
  have hsingle : rest.splitOn 10 = [rest] := List.splitOnP_eq_singleton fun b hb => by
    simpa using fun hb10 : b = 10 => hrest (hb10 ▸ hb)
  have hsplit : bs.splitOn 10 = pieces ++ [rest] := by rw [hbs, splitOn_terminated pieces hpieces, hsingle]
  have hrestOf : restOf bs = rest := by rw [restOf, hsplit, List.getLastD_concat]
  refine ⟨pieces, hpieces, hrestOf ▸ hrest, ?_, by rw [hrestOf]; exact hbs⟩
  rw [linesOf, hsplit, List.dropLast_concat]

theorem not_mem_restOf (bs : Bytes) : 10 ∉ restOf bs := by
  obtain ⟨-, -, h, -⟩ := exists_pieces bs
  exact h

theorem splitOn_append (a b : Bytes) :
    ∃ pieces : List Bytes, linesOf a = pieces.map lineOf ∧
      (a ++ b).splitOn 10 = pieces ++ (restOf a ++ b).splitOn 10 := by
  obtain ⟨pieces, hpieces, -, hlines, ha⟩ := exists_pieces a
  refine ⟨pieces, hlines, ?_⟩
  conv_lhs => rw [ha, List.append_assoc]
  exact splitOn_terminated pieces hpieces _

/-- **The lines of bytes in two parts** are those of the first part, and those of its rest with the second. -/
theorem linesOf_append (a b : Bytes) : linesOf (a ++ b) = linesOf a ++ linesOf (restOf a ++ b) := by
  obtain ⟨pieces, hlines, hsplit⟩ := splitOn_append a b
  have hne : (restOf a ++ b).splitOn 10 ≠ [] := List.splitOnP_ne_nil _ _
  rw [linesOf, hsplit, List.dropLast_append_of_ne_nil hne, List.map_append, hlines, linesOf]

theorem restOf_append (a b : Bytes) : restOf (a ++ b) = restOf (restOf a ++ b) := by
  obtain ⟨pieces, -, hsplit⟩ := splitOn_append a b
  have hne : (restOf a ++ b).splitOn 10 ≠ [] := List.splitOnP_ne_nil _ _
  rw [restOf, restOf, hsplit, List.getLastD_eq_getLast?, List.getLastD_eq_getLast?, List.getLast?_append_of_ne_nil _ hne]

theorem linesOf_of_not_mem {bs : Bytes} (h : 10 ∉ bs) : linesOf bs = [] ∧ restOf bs = bs := by
  have hsingle : bs.splitOn 10 = [bs] := List.splitOnP_eq_singleton fun b hb => by
    simpa using fun hb10 : b = 10 => h (hb10 ▸ hb)
  rw [linesOf, restOf, hsingle]
  exact ⟨rfl, rfl⟩

/-- bytes behind a line feed-free beginning: a byte more -/
theorem linesOf_concat_lf {bs : Bytes} (h : 10 ∉ bs) : linesOf (bs ++ [10]) = [lineOf bs] ∧ restOf (bs ++ [10]) = [] := by
  have hsplit : (bs ++ [10]).splitOn 10 = [bs, []] := by
    have hcut := splitOn_terminated [bs] (by simpa using h) []
    simpa using hcut
  rw [linesOf, restOf, hsplit]
  exact ⟨rfl, rfl⟩

/-- what is left of bytes is at their end -/
theorem restOf_suffix (bs : Bytes) : restOf bs <:+ bs := by
  obtain ⟨pieces, -, -, -, hbs⟩ := exists_pieces bs
  exact ⟨_, hbs.symm⟩

/-- a line is spelled by bytes: it stands in them with its line feed, or it is a last line without one -/
def SpelledIn (bytes : Bytes) (line : String) : Prop :=
  ∃ piece, 10 ∉ piece ∧ (piece ++ [10] <:+: bytes ∧ line = lineOf piece ∨ piece <:+: bytes ∧ line = ofUtf8 piece)

theorem SpelledIn.mono {bs bs' : Bytes} {line : String} (h : SpelledIn bs line) (hbs : bs <:+: bs') :
    SpelledIn bs' line := by
  obtain ⟨piece, hpiece, ⟨hin, hline⟩ | ⟨hin, hline⟩⟩ := h
  · exact ⟨piece, hpiece, .inl ⟨hin.trans hbs, hline⟩⟩
  · exact ⟨piece, hpiece, .inr ⟨hin.trans hbs, hline⟩⟩

theorem spelled_linesOf {bs : Bytes} {line : String} (h : line ∈ linesOf bs) : SpelledIn bs line := by
  obtain ⟨pieces, hpieces, -, hlines, hbs⟩ := exists_pieces bs
  rw [hlines] at h
  obtain ⟨piece, hpiece, rfl⟩ := List.mem_map.1 h
  refine ⟨piece, hpieces piece hpiece, .inl ⟨?_, rfl⟩⟩
  have hin : piece ++ [10] <:+: (pieces.map (· ++ [10])).flatten := List.infix_of_mem_flatten (List.mem_map_of_mem hpiece)
  exact hin.trans ⟨[], restOf bs, hbs.symm⟩

theorem spelled_lastLine {rest : Bytes} (hrest : 10 ∉ rest) {line : String} (h : line ∈ lastLine rest) :
    SpelledIn rest line := by
  rw [lastLine] at h
  split at h
  · cases h
  · exact ⟨rest, hrest, .inr ⟨List.infix_refl rest, List.mem_singleton.1 h⟩⟩

namespace Connection

/-! ## Lines and readers -/

/-- takes in lines -/
def pushLines (now : Int) (lines : List String) (c : Connection) : Outcome :=
  lines.foldl (fun o line => andThen o (pushLine now line)) (c, [])

/-- the alarm of a reader set anew, once for each line that it takes -/
def rearmed (now : Int) (r : Reader) (count : Nat) : List Effect :=
  (List.replicate count [Effect.disarm (.read r.id), .arm (.read r.id) (remaining now r.deadline)]).flatten

theorem foldl_pushLine (now : Int) (lines : List String) (o : Outcome) :
    lines.foldl (fun o line => andThen o (pushLine now line)) o = andThen o (pushLines now lines) := by
  induction lines generalizing o with
  | nil => exact Prod.ext rfl (List.append_nil _).symm
  | cons line lines ih =>
    have hcons : pushLines now (line :: lines) = fun c => andThen (pushLine now line c) (pushLines now lines) := by
      funext c
      rw [pushLines, List.foldl_cons, ih]
      simp [andThen]
    rw [List.foldl_cons, ih, hcons, andThen_assoc]

theorem pushLines_cons (now : Int) (line : String) (lines : List String) (c : Connection) :
    pushLines now (line :: lines) c = andThen (pushLine now line c) (pushLines now lines) := by
  rw [pushLines, List.foldl_cons, foldl_pushLine]
  simp [andThen]

theorem pushLines_concat (now : Int) (lines : List String) (line : String) (c : Connection) :
    pushLines now (lines ++ [line]) c = andThen (pushLines now lines c) (pushLine now line) := by
  rw [pushLines, List.foldl_append]
  rfl

/-- lines have nothing to do with the bytes of the line under way -/
theorem pushLine_buffer (now : Int) (line : String) (bs : Bytes) (c : Connection) :
    pushLine now line { c with buffer := bs } =
      ({ (pushLine now line c).1 with buffer := bs }, (pushLine now line c).2) := by
  unfold pushLine
  cases c.pending with
  | none => rfl
  | some r => cases isFinalLine line <;> rfl

theorem pushLines_buffer (now : Int) (lines : List String) (bs : Bytes) (c : Connection) :
    pushLines now lines { c with buffer := bs } =
      ({ (pushLines now lines c).1 with buffer := bs }, (pushLines now lines c).2) := by
  induction lines generalizing c with
  | nil => rfl
  | cons line lines ih => simp only [pushLines_cons, andThen, pushLine_buffer, ih]

/-- **Taking bytes in is taking in their lines.** -/
theorem feed_eq (now : Int) (bs : Bytes) {c : Connection} (hc : 10 ∉ c.buffer) :
    feed now bs c = pushLines now (linesOf (c.buffer.reverse ++ bs))
      { c with buffer := (restOf (c.buffer.reverse ++ bs)).reverse } := by
  have hbuffer : 10 ∉ c.buffer.reverse := fun h => hc (List.mem_reverse.1 h)
  induction bs using List.reverseRecOn with
  | nil =>
    obtain ⟨hlines, hrest⟩ := linesOf_of_not_mem hbuffer
    rw [List.append_nil, hlines, hrest, List.reverse_reverse]
    rfl
  | append_singleton bs b ih =>
    have hrest := not_mem_restOf (c.buffer.reverse ++ bs)
    have hone : ∀ c : Connection, feed now [b] c = feedByte now c b := fun c => by
      rw [feed_cons]
      exact Prod.ext rfl (List.append_nil _)
    rw [feed_append, ih, ← List.append_assoc, linesOf_append (c.buffer.reverse ++ bs) [b],
      restOf_append (c.buffer.reverse ++ bs) [b], andThen, hone, pushLines_buffer now _ (List.reverse _)]
    by_cases hb : b = 10
    · obtain ⟨hlines, hnone⟩ := linesOf_concat_lf hrest
      rw [hb, hlines, hnone, pushLines_concat, pushLines_buffer now _ (List.reverse []), feedByte, if_pos rfl,
        List.reverse_reverse]
      rfl
    · have hmore : 10 ∉ restOf (c.buffer.reverse ++ bs) ++ [b] := by
        intro hm
        rcases List.mem_append.1 hm with hm | hm
        · exact hrest hm
        · exact hb (List.mem_singleton.1 hm).symm
      obtain ⟨hlines, hmore⟩ := linesOf_of_not_mem hmore
      rw [hlines, hmore, List.append_nil, pushLines_buffer now _ (List.reverse _), feedByte, if_neg hb,
        List.reverse_append]
      exact Prod.ext rfl (List.append_nil _)

/-! ## What lines do -/

theorem splitReply_eq_none {lines : List String} :
    splitReply lines = none ↔ ∀ line ∈ lines, isFinalLine line = false := by
  induction lines with
  | nil => exact ⟨fun _ => List.forall_mem_nil _, fun _ => rfl⟩
  | cons line lines ih =>
    rw [splitReply, List.forall_mem_cons]
    cases isFinalLine line <;> simp [ih]

theorem splitReply_eq_some {lines got more : List String} (h : splitReply lines = some (got, more)) :
    Complete got ∧ lines = got ++ more := by
  induction lines generalizing got with
  | nil => cases h
  | cons line lines ih =>
    rw [splitReply] at h
    cases hfinal : isFinalLine line with
    | true =>
      rw [hfinal, if_pos rfl] at h
      cases h
      exact ⟨.last hfinal, rfl⟩
    | false =>
      rw [hfinal, if_neg Bool.false_ne_true] at h
      obtain ⟨⟨got', more'⟩, hsplit, hcons⟩ := Option.map_eq_some_iff.1 h
      cases hcons
      obtain ⟨hcomplete, hlines⟩ := ih hsplit
      exact ⟨.more hfinal hcomplete, congrArg (line :: ·) hlines⟩

/-- nobody waits for the line -/
theorem pushLine_unread (now : Int) (line : String) {c : Connection} (hc : c.pending = none) :
    pushLine now line c = ({ c with lines := c.lines ++ [line] }, []) := by rw [pushLine, hc]

/-- nobody waits for the lines -/
theorem pushLines_unread (now : Int) (lines : List String) {c : Connection} (hc : c.pending = none) :
    pushLines now lines c = ({ c with lines := c.lines ++ lines }, []) := by
  induction lines generalizing c with
  | nil =>
    rw [List.append_nil]
    rfl
  | cons line lines ih =>
    rw [pushLines_cons, pushLine_unread now line hc, andThen, ih (c := { c with lines := c.lines ++ [line] }) hc,
      List.append_assoc]
    rfl

/-- the reader goes on waiting -/
theorem pushLines_waiting (now : Int) {lines : List String} (hlines : splitReply lines = none) {c : Connection}
    {r : Reader} (hr : c.pending = some r) :
    pushLines now lines c =
      ({ c with pending := some { r with got := r.got ++ lines } }, rearmed now r lines.length) := by
  induction lines generalizing c r with
  | nil =>
    rw [List.append_nil, ← hr]
    rfl
  | cons line lines ih =>
    obtain ⟨hline, hrest⟩ := List.forall_mem_cons.1 (splitReply_eq_none.1 hlines)
    rw [pushLines_cons, pushLine_more now hline hr, andThen, ih (splitReply_eq_none.2 hrest) rfl, List.append_assoc]
    rfl

/-- the reader is answered, and what goes beyond its reply is queued -/
theorem pushLines_answered (now : Int) {lines got more : List String} (hlines : splitReply lines = some (got, more))
    {c : Connection} {r : Reader} (hr : c.pending = some r) :
    pushLines now lines c = ({ c with pending := none, lines := c.lines ++ more },
      rearmed now r (got.length - 1) ++ delivered r.id (r.got ++ got)) := by
  obtain ⟨hgot, rfl⟩ := splitReply_eq_some hlines
  clear hlines
  induction hgot generalizing c r with
  | @last line hfinal =>
    rw [List.singleton_append, pushLines_cons, pushLine_final now hfinal hr, andThen, pushLines_unread now more rfl]
    exact congrArg (Prod.mk _) (List.append_nil _)
  | @more line got hmore hgot ih =>
    obtain ⟨n, hlength⟩ : ∃ n, got.length = n + 1 := by cases hgot <;> exact ⟨_, rfl⟩
    rw [List.cons_append, pushLines_cons, pushLine_more now hmore hr, andThen, ih rfl, List.length_cons, hlength]
    simp [rearmed, List.replicate_succ]

/-- two connections that differ at most in what has arrived and in who reads it -/
structure Agree (c c' : Connection) : Prop where
  settings : c.settings = c'.settings
  ended : c.ended = c'.ended
  secure : c.secure = c'.secure
  socket : c.socket = c'.socket
  upgrades : c.upgrades = c'.upgrades

theorem agree_refl (c : Connection) : Agree c c := ⟨rfl, rfl, rfl, rfl, rfl⟩

theorem Agree.symm {c c' : Connection} (h : Agree c c') : Agree c' c :=
  ⟨h.settings.symm, h.ended.symm, h.secure.symm, h.socket.symm, h.upgrades.symm⟩

theorem Agree.trans {a b c : Connection} (h : Agree a b) (h' : Agree b c) : Agree a c :=
  ⟨h.settings.trans h'.settings, h.ended.trans h'.ended, h.secure.trans h'.secure, h.socket.trans h'.socket,
    h.upgrades.trans h'.upgrades⟩

/-- lines go to the reader or to the queue, and nowhere else -/
theorem agree_pushLine (now : Int) (line : String) (c : Connection) :
    Agree (pushLine now line c).1 c ∧ (pushLine now line c).1.buffer = c.buffer := by
  unfold pushLine
  split
  · exact ⟨⟨rfl, rfl, rfl, rfl, rfl⟩, rfl⟩
  · split <;> exact ⟨⟨rfl, rfl, rfl, rfl, rfl⟩, rfl⟩

theorem agree_pushLines (now : Int) (lines : List String) (c : Connection) :
    Agree (pushLines now lines c).1 c ∧ (pushLines now lines c).1.buffer = c.buffer := by
  induction lines generalizing c with
  | nil => exact ⟨agree_refl c, rfl⟩
  | cons line lines ih =>
    obtain ⟨h, hbuffer⟩ := agree_pushLine now line c
    obtain ⟨h', hbuffer'⟩ := ih (pushLine now line c).1
    rw [pushLines_cons]
    exact ⟨h'.trans h, hbuffer'.trans hbuffer⟩

/-! ## Starting to read -/

theorem read_queued (now : Int) (id : Nat) {c : Connection} {got rest : List String}
    (h : splitReply c.lines = some (got, rest)) :
    read now id c = ({ c with lines := rest }, traceReply got ++ [.answered id (.ok (Reply.ofLines got))]) := by
  rw [read, h]

theorem read_ended (now : Int) (id : Nat) {c : Connection} (h : splitReply c.lines = none) {error : String}
    (hended : c.ended = some error) : read now id c = ({ c with lines := [] }, [.answered id (.error error)]) := by
  rw [read, h, hended]

theorem read_open (now : Int) (id : Nat) {c : Connection} (h : splitReply c.lines = none) (hended : c.ended = none) :
    read now id c =
      ({ c with lines := [], pending := some ⟨id, c.settings.readTimeout.deadline now, c.lines⟩ },
        [.arm (.read id) (remaining now (c.settings.readTimeout.deadline now))]) := by
  rw [read, h, hended]

/-! ## The end of a connection -/

/-- whoever still waits is told why the connection ends -/
def reject (error : String) (c : Connection) : Outcome :=
  match c.pending with
  | some r => ({ c with ended := some error, pending := none }, [.disarm (.read r.id), .answered r.id (.error error)])
  | none => ({ c with ended := some error }, [])

theorem reject_unread (error : String) {c : Connection} (h : c.pending = none) :
    reject error c = ({ c with ended := some error }, []) := by simp only [reject, h]

theorem reject_waiting (error : String) {c : Connection} {r : Reader} (h : c.pending = some r) :
    reject error c = ({ c with ended := some error, pending := none },
      [.disarm (.read r.id), .answered r.id (.error error)]) := by simp only [reject, h]

theorem finish_ended (now : Int) (error : String) {c : Connection} (hc : c.ended ≠ none) :
    finish now error c = (c, []) := if_pos (Option.isSome_iff_ne_none.2 hc)

/-- **The end of a connection** takes the last line in, and then turns down whoever waits. -/
theorem finish_eq (now : Int) (error : String) {c : Connection} (hc : c.ended = none) :
    finish now error c =
      andThen (pushLines now (lastLine c.buffer.reverse) { c with buffer := [] }) (reject error) := by
  have hopen : ¬c.ended.isSome = true := by simp [hc]
  rw [finish, if_neg hopen, lastLine]
  by_cases hrest : c.buffer.reverse.isEmpty = true
  · simp only [if_pos hrest]
    rfl
  · simp only [if_neg hrest, pushLines_cons]
    rw [andThen_assoc]
    rfl

end Connection

end EnquiryMail.Smtp
