import AsyncFiles.Host.Content

/-!
What lies in a pipe, in a limited number of pages. The part of a write that fills no whole page goes
into the last page if it fits there; all else takes new pages as long as there are any. A read takes
from the front and frees the pages it has emptied.
-/
namespace AsyncFiles.Host

structure Page where
  data : Bytes
  room : Nat

structure Pipe where
  pages : List Page := []

namespace Pipe

def pageSize : Nat := 4096

def maxPages : Nat := 16

def contents (pipe : Pipe) : Bytes := pipe.pages.flatMap Page.data

def isEmpty (pipe : Pipe) : Bool := pipe.pages.isEmpty

def isFull (pipe : Pipe) : Bool := maxPages ≤ pipe.pages.length

def takePages : List Page → Nat → Bytes × List Page
  | [], _ => ([], [])
  | page :: pages, count =>
    if page.data.length ≤ count then
      let (data, left) := takePages pages (count - page.data.length)
      (page.data ++ data, left)
    else (page.data.take count, { page with data := page.data.drop count } :: pages)

theorem takePages_eq (pages : List Page) (count : Nat) :
    (takePages pages count).1 = (pages.flatMap Page.data).take count ∧
      (takePages pages count).2.flatMap Page.data = (pages.flatMap Page.data).drop count := by
  induction pages generalizing count with
  | nil => simp [takePages]
  | cons page pages ih =>
    simp only [takePages]
    split
    · next fits =>
      simp [ih, List.take_append, List.drop_append, List.take_of_length_le fits,
        List.drop_of_length_le fits]
    · next short =>
      have exceeded : count - page.data.length = 0 := by omega
      simp [List.take_append, List.drop_append, exceeded]

def take (pipe : Pipe) (count : Nat) : Bytes × Pipe :=
  let (data, pages) := takePages pipe.pages count
  (data, { pages })

theorem take_contents (pipe : Pipe) (count : Nat) :
    (pipe.take count).1 = pipe.contents.take count ∧
      (pipe.take count).2.contents = pipe.contents.drop count :=
  takePages_eq pipe.pages count

/-- The last page with what of the data fills no whole page, if it fits there; and the rest. -/
def topUp (pages : List Page) (data : Bytes) : Bytes × List Page :=
  let part := data.length % pageSize
  match pages.getLast? with
  | none => (data, pages)
  | some last =>
    if last.room < part then (data, pages)
    else
      let last := { data := last.data ++ data.take part, room := last.room - part }
      (data.drop part, pages.dropLast ++ [last])

theorem topUp_contents (pages : List Page) (data : Bytes) :
    (topUp pages data).2.flatMap Page.data ++ (topUp pages data).1 =
      pages.flatMap Page.data ++ data := by
  simp only [topUp]
  split
  · rfl
  · next last found =>
    split
    · rfl
    · obtain ⟨front, rfl⟩ := List.getLast?_eq_some_iff.mp found
      simp

def newPages : Nat → Bytes → Bytes × List Page
  | 0, data => (data, [])
  | count + 1, data =>
    if data.isEmpty then ([], [])
    else
      let piece := data.take pageSize
      let (rest, pages) := newPages count (data.drop pageSize)
      (rest, { data := piece, room := pageSize - piece.length } :: pages)

theorem newPages_contents (count : Nat) (data : Bytes) :
    (newPages count data).2.flatMap Page.data ++ (newPages count data).1 = data := by
  induction count generalizing data with
  | zero => simp [newPages]
  | succ count ih =>
    simp only [newPages]
    split
    · next empty => simpa using empty
    · simp [ih]

theorem newPages_length {count : Nat} {data : Bytes} (rest : (newPages count data).1 ≠ []) :
    (newPages count data).2.length = count := by
  induction count generalizing data with
  | zero => rfl
  | succ count ih =>
    simp only [newPages] at rest ⊢
    split at rest
    next => exact absurd rfl rest
    next more => simp [more, ih rest]

def extend (pipe : Pipe) (data : Bytes) : Bytes × Pipe :=
  let (rest, pages) := newPages (maxPages - pipe.pages.length) data
  (rest, { pages := pipe.pages ++ pages })

theorem extend_contents (pipe : Pipe) (data : Bytes) :
    (pipe.extend data).2.contents ++ (pipe.extend data).1 = pipe.contents ++ data := by
  simp [extend, contents, newPages_contents]

theorem extend_isFull {pipe : Pipe} {data : Bytes} (rest : (pipe.extend data).1 ≠ []) :
    (pipe.extend data).2.isFull = true := by
  have pages : (newPages (maxPages - pipe.pages.length) data).2.length =
    maxPages - pipe.pages.length := newPages_length rest
  simp only [isFull, extend, List.length_append, decide_eq_true_eq, pages]
  omega

/-- What a write puts in at once, and the rest, which has to wait. -/
def put (pipe : Pipe) (data : Bytes) : Bytes × Pipe :=
  let (rest, pages) := topUp pipe.pages data
  ({ pages } : Pipe).extend rest

theorem put_contents (pipe : Pipe) (data : Bytes) :
    (pipe.put data).2.contents ++ (pipe.put data).1 = pipe.contents ++ data := by
  simp only [put, extend_contents]
  exact topUp_contents pipe.pages data

theorem put_isFull {pipe : Pipe} {data : Bytes} (rest : (pipe.put data).1 ≠ []) :
    (pipe.put data).2.isFull = true := extend_isFull rest

end Pipe

end AsyncFiles.Host
