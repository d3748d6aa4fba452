import Mathlib.Data.List.Infix

namespace VpnUi.Server

/-! The connection wrapper that answers a plain HTTP request with a redirect to
HTTPS and hands every other connection on to the TLS server. -/

abbrev Bytes := List UInt8

/-- What one read of the network brings, and whether an error comes with it. -/
structure Chunk where
  bytes : Bytes
  failed : Bool

/-- `net.Conn`: the chunks that its reads will bring, and what was written to
it. -/
structure Conn where
  chunks : List Chunk
  written : List String
  closed : Bool

namespace Conn

/-- The bytes that are still to be read. -/
def stream (conn : Conn) : Bytes :=
  conn.chunks.flatMap Chunk.bytes

/-- One read into a buffer.  What does not fit is left for the next one, and the
error waits for the last byte of its chunk. -/
def read (size : Nat) (conn : Conn) : Chunk × Conn :=
  if conn.closed then (⟨[], true⟩, conn)
  else
    match conn.chunks with
    | [] => (⟨[], true⟩, conn)
    | chunk :: chunks =>
        if chunk.bytes.length ≤ size then
          (chunk, { conn with chunks := chunks })
        else
          (⟨chunk.bytes.take size, false⟩,
            { conn with
              chunks := ⟨chunk.bytes.drop size, chunk.failed⟩ :: chunks })

def write (location : String) (conn : Conn) : Conn :=
  { conn with written := conn.written ++ [location] }

def close (conn : Conn) : Conn :=
  { conn with closed := true }

theorem read_stream {size : Nat} {conn : Conn} :
    (conn.read size).1.bytes ++ (conn.read size).2.stream = conn.stream := by
  obtain ⟨chunks, written, closed⟩ := conn
  rw [read]
  cases closed with
  | true => rfl
  | false =>
      cases chunks with
      | nil => rfl
      | cons chunk chunks =>
          by_cases fits : chunk.bytes.length ≤ size
          · simp [fits, stream]
          · simp [fits, stream, ← List.append_assoc]

end Conn

/-- What `http.ReadRequest` takes from a request for the redirect. -/
structure Request where
  host : String
  requestURI : String

structure AutoHttpsConn where
  conn : Conn
  firstBuf : Option Bytes
  bufStart : Nat
  /-- `readRequestOnce` has run. -/
  requestRead : Bool

def newAutoHttpsConn (conn : Conn) : AutoHttpsConn :=
  ⟨conn, none, 0, false⟩

namespace AutoHttpsConn

section Read

variable (readRequest? : Bytes → Option Request)

def readRequest (c : AutoHttpsConn) : AutoHttpsConn :=
  let (chunk, conn) := c.conn.read 2048
  let read := { c with conn := conn, firstBuf := some chunk.bytes }
  if chunk.failed then read
  else
    match readRequest? chunk.bytes with
    | none => read
    | some request =>
        let location := "https://" ++ request.host ++ request.requestURI
        { read with
          conn := (conn.write location).close
          firstBuf := none }

/-- `readRequestOnce.Do`. -/
def readRequestOnce (c : AutoHttpsConn) : AutoHttpsConn :=
  if c.requestRead then c
  else { c.readRequest readRequest? with requestRead := true }

/-- Without a value where the slice of the buffer is out of range. -/
def read (size : Nat) (c : AutoHttpsConn) : Option (Chunk × AutoHttpsConn) :=
  let c := c.readRequestOnce readRequest?
  match c.firstBuf with
  | some firstBuf =>
      if firstBuf.length < c.bufStart then none
      else
        let copied := (firstBuf.drop c.bufStart).take size
        let bufStart := c.bufStart + copied.length
        some (⟨copied, false⟩,
          { c with
            firstBuf := if firstBuf.length ≤ bufStart then none
              else some firstBuf
            bufStart := bufStart })
  | none =>
      let (chunk, conn) := c.conn.read size
      some (chunk, { c with conn := conn })

/-- The calls of `Read` with buffers of the sizes, and all they returned. -/
def readAll : List Nat → AutoHttpsConn → Option (Bytes × AutoHttpsConn)
  | [], c => some ([], c)
  | size :: sizes, c => do
      let (chunk, c) ← c.read readRequest? size
      let (bytes, c) ← readAll sizes c
      some (chunk.bytes ++ bytes, c)

end Read

/-- The part of the first chunk that no caller has seen yet. -/
def unread (c : AutoHttpsConn) : Bytes :=
  (c.firstBuf.getD []).drop c.bufStart

/-- What callers are still to get. -/
def pending (c : AutoHttpsConn) : Bytes :=
  c.unread ++ c.conn.stream

/-- The first read of the connection brings no HTTP request. -/
def Unparsed (readRequest? : Bytes → Option Request) (conn : Conn) : Prop :=
  (conn.read 2048).1.failed = false →
    readRequest? (conn.read 2048).1.bytes = none

/-- Before the first call the wrapper holds nothing, and after it the place that
is replayed lies inside the buffer. -/
structure Sound (readRequest? : Bytes → Option Request) (c : AutoHttpsConn) :
    Prop where
  fresh : c.requestRead = false →
    c.firstBuf = none ∧ c.bufStart = 0 ∧ Unparsed readRequest? c.conn
  inside : ∀ firstBuf, c.firstBuf = some firstBuf →
    c.bufStart ≤ firstBuf.length

section Transparent

variable {readRequest? : Bytes → Option Request} {c : AutoHttpsConn}
  {conn : Conn} {size : Nat} {sizes : List Nat}

theorem sound_newAutoHttpsConn (unparsed : Unparsed readRequest? conn) :
    (newAutoHttpsConn conn).Sound readRequest? :=
  ⟨fun _ => ⟨rfl, rfl, unparsed⟩, by simp [newAutoHttpsConn]⟩

theorem readRequest_of_unparsed (unparsed : Unparsed readRequest? c.conn) :
    c.readRequest readRequest? =
      { c with
        conn := (c.conn.read 2048).2
        firstBuf := some (c.conn.read 2048).1.bytes } := by
  simp only [readRequest]
  cases failed : (c.conn.read 2048).1.failed with
  | true => rfl
  | false => rw [unparsed failed]; rfl

/-- Looking at the first chunk takes nothing from the callers. -/
theorem readRequestOnce_spec (sound : c.Sound readRequest?) :
    (c.readRequestOnce readRequest?).requestRead = true ∧
      (c.readRequestOnce readRequest?).Sound readRequest? ∧
      (c.readRequestOnce readRequest?).pending = c.pending := by
  rw [readRequestOnce]
  cases done : c.requestRead with
  | true => exact ⟨done, sound, rfl⟩
  | false =>
      obtain ⟨unbuffered, start, unparsed⟩ := sound.fresh done
      rw [if_neg Bool.false_ne_true, readRequest_of_unparsed unparsed]
      refine ⟨rfl, ⟨Bool.noConfusion, ?_⟩, ?_⟩
      · intro firstBuf _
        exact start ▸ Nat.zero_le _
      · simp only [pending, unread, start, unbuffered, Option.getD_some,
          Option.getD_none, List.drop_zero, List.nil_append]
        exact Conn.read_stream

/-- What one call of `Read` does to the bytes that are still to come. -/
structure Delivers (readRequest? : Bytes → Option Request) (size : Nat)
    (c : AutoHttpsConn) (chunk : Chunk) (next : AutoHttpsConn) : Prop where
  sound : next.Sound readRequest?
  pending : chunk.bytes ++ next.pending = c.pending
  /-- With nothing left on the connection the buffer is handed on. -/
  progress : c.conn.stream = [] → next.conn.stream = [] ∧
    (0 < size → c.pending ≠ [] → chunk.bytes ≠ [])

theorem stream_eq_nil_of_read (drained : conn.stream = []) :
    (conn.read size).1.bytes = [] ∧ (conn.read size).2.stream = [] := by
  rw [← List.append_eq_nil_iff, Conn.read_stream, drained]

theorem readRequestOnce_drained (sound : c.Sound readRequest?)
    (drained : c.conn.stream = []) :
    (c.readRequestOnce readRequest?).conn.stream = [] := by
  rw [readRequestOnce]
  cases done : c.requestRead with
  | true => exact drained
  | false =>
      obtain ⟨-, -, unparsed⟩ := sound.fresh done
      rw [if_neg Bool.false_ne_true, readRequest_of_unparsed unparsed]
      exact (stream_eq_nil_of_read drained).2

/-- A replayed piece and what stays of the buffer are what there was of it. -/
theorem copied_append_rest {firstBuf : Bytes} {start : Nat} :
    let copied := (firstBuf.drop start).take size
    copied ++ ((if firstBuf.length ≤ start + copied.length then none
      else some firstBuf).getD []).drop (start + copied.length) =
        firstBuf.drop start := by
  intro copied
  have shown : copied.length = min size (firstBuf.length - start) := by
    rw [List.length_take, List.length_drop]
  split
  next whole =>
    rw [Option.getD_none, List.drop_nil, List.append_nil]
    apply List.take_of_length_le
    rw [List.length_drop]
    omega
  next part =>
    have full : copied.length = size := by omega
    rw [Option.getD_some, full, ← List.drop_drop]
    exact List.take_append_drop size _

theorem read_spec (sound : c.Sound readRequest?) :
    ∃ chunk next, c.read readRequest? size = some (chunk, next) ∧
      Delivers readRequest? size c chunk next := by
  obtain ⟨done, looked, same⟩ := readRequestOnce_spec sound
  have drains := readRequestOnce_drained sound
  rw [read]
  generalize c.readRequestOnce readRequest? = d at done looked same drains
  obtain ⟨conn, firstBuf, bufStart, requestRead⟩ := d
  obtain rfl : requestRead = true := done
  cases firstBuf with
  | some firstBuf =>
      have within := looked.inside firstBuf rfl
      have rest := @copied_append_rest size firstBuf bufStart
      simp only [if_neg (Nat.not_lt.mpr within)]
      refine ⟨_, _, rfl, ⟨Bool.noConfusion, ?_⟩, ?_, ?_⟩
      · intro kept stays
        simp only at stays
        split at stays
        · exact absurd stays.symm (Option.some_ne_none _)
        next later =>
          obtain rfl := Option.some.inj stays
          exact Nat.le_of_not_le later
      · rw [← same]
        simp only [pending, unread, Option.getD_some]
        rw [← List.append_assoc, rest]
      · intro drained
        refine ⟨drains drained, ?_⟩
        intro positive nonempty copied
        apply nonempty
        have none : firstBuf.drop bufStart = [] := by
          rcases List.take_eq_nil_iff.mp copied with zero | none
          · omega
          · exact none
        rw [← same]
        simp only [pending, unread, Option.getD_some]
        rw [none, drains drained]
        rfl
  | none =>
      refine ⟨_, _, rfl, ⟨Bool.noConfusion, by simp⟩, ?_, ?_⟩
      · rw [← same]
        simp only [pending, unread, Option.getD_none, List.drop_nil,
          List.nil_append]
        exact Conn.read_stream
      · intro drained
        have empty := @stream_eq_nil_of_read conn size (drains drained)
        refine ⟨empty.2, fun _ nonempty => absurd ?_ nonempty⟩
        rw [← same]
        simp only [pending, unread, Option.getD_none, List.drop_nil,
          List.nil_append]
        exact drains drained

theorem readAll_spec (sound : c.Sound readRequest?) :
    ∃ returned next, c.readAll readRequest? sizes = some (returned, next) ∧
      next.Sound readRequest? ∧ returned ++ next.pending = c.pending := by
  induction sizes generalizing c with
  | nil => exact ⟨[], c, rfl, sound, rfl⟩
  | cons size sizes induction =>
      obtain ⟨chunk, next, once, delivers⟩ := @read_spec _ c size sound
      obtain ⟨returned, last, rest, kept, whole⟩ := induction delivers.sound
      refine ⟨chunk.bytes ++ returned, last, ?_, kept, ?_⟩
      · simp [readAll, once, rest]
      · rw [List.append_assoc, whole, delivers.pending]

/-- Calls with room for a byte empty the buffer once the connection is empty. -/
theorem readAll_drained (sound : c.Sound readRequest?)
    (drained : c.conn.stream = []) (room : ∀ size ∈ sizes, 0 < size)
    (enough : c.pending.length ≤ sizes.length) :
    ∃ next, c.readAll readRequest? sizes = some (c.pending, next) := by
  induction sizes generalizing c with
  | nil =>
      have empty : c.pending = [] := List.length_eq_zero_iff.mp
        (Nat.le_zero.mp enough)
      exact ⟨c, by rw [empty]; rfl⟩
  | cons size sizes induction =>
      rw [List.forall_mem_cons] at room
      obtain ⟨chunk, next, once, delivers⟩ := @read_spec _ c size sound
      obtain ⟨empty, moves⟩ := delivers.progress drained
      have fewer : next.pending.length ≤ sizes.length := by
        have lengths := congrArg List.length delivers.pending
        rw [List.length_append] at lengths
        rw [List.length_cons] at enough
        by_cases none : c.pending = []
        · rw [none, List.length_nil] at lengths
          omega
        · have some := List.length_pos_iff.mpr (moves room.1 none)
          omega
      obtain ⟨last, rest⟩ := induction delivers.sound empty room.2 fewer
      refine ⟨last, ?_⟩
      simp [readAll, once, rest, delivers.pending]

theorem readAll_append {more : List Nat} {returned : Bytes}
    {next : AutoHttpsConn}
    (first : c.readAll readRequest? sizes = some (returned, next)) :
    c.readAll readRequest? (sizes ++ more) =
      (next.readAll readRequest? more).map fun (bytes, last) =>
        (returned ++ bytes, last) := by
  induction sizes generalizing c returned with
  | nil =>
      obtain ⟨rfl, rfl⟩ := Prod.mk.inj (Option.some.inj first)
      simp
  | cons size sizes induction =>
      simp only [readAll, Option.bind_eq_bind, Option.bind_eq_some_iff] at first
      obtain ⟨⟨chunk, d⟩, once, ⟨bytes, last⟩, rest, same⟩ := first
      obtain ⟨rfl, rfl⟩ := Prod.mk.inj (Option.some.inj same)
      simp only [List.cons_append, readAll, once, Option.bind_eq_bind,
        Option.bind_some, induction rest]
      cases last.readAll readRequest? more <;> simp

end Transparent

end AutoHttpsConn

end VpnUi.Server
