import AsyncFiles.Proofs.Completion.Answers

/-!
Data laid over a list of buffers. It covers the first buffers as far as they have room, and goes on
in the next ones from there. So the buffers of one transfer, taken one after the other, begin with
the data and go on with what they held before, and no other buffer is touched.
-/
namespace AsyncFiles.Buffers

open Host

variable {buffers : List Bytes} {data : Bytes}

theorem scatter_nil (buffers : List Bytes) : scatter buffers [] = buffers := by
  induction buffers with
  | nil => rfl
  | cons buffer rest ih => simp [scatter, ih]

theorem take_scatter (count : Nat) (buffers : List Bytes) (data : Bytes) :
    (scatter buffers data).take count = scatter (buffers.take count) data := by
  induction buffers generalizing count data with
  | nil => simp [scatter]
  | cons buffer rest ih =>
    cases count with
    | zero => rfl
    | succ count => simp [scatter, ih]

theorem drop_scatter (count : Nat) (buffers : List Bytes) (data : Bytes) :
    (scatter buffers data).drop count =
      scatter (buffers.drop count) (data.drop (buffers.take count).flatten.length) := by
  induction buffers generalizing count data with
  | nil => simp [scatter]
  | cons buffer rest ih =>
    cases count with
    | zero => rfl
    | succ count => simp [scatter, ih, List.drop_drop]

theorem flatten_scatter (buffers : List Bytes) (data : Bytes) :
    (scatter buffers data).flatten =
      data.take buffers.flatten.length ++ buffers.flatten.drop data.length := by
  induction buffers generalizing data with
  | nil => simp [scatter]
  | cons buffer rest ih =>
    simp only [scatter, List.flatten_cons, ih, List.length_append, List.length_drop]
    -- The data ends within the first buffer or goes on behind it.
    rcases Nat.le_total data.length buffer.length with within | beyond
    · have past : data.drop buffer.length = [] := List.drop_eq_nil_of_le within
      have whole : data.length ≤ buffer.length + rest.flatten.length := by omega
      rw [past, List.take_of_length_le within, List.take_of_length_le whole,
        List.drop_append_of_le_length within, Nat.sub_eq_zero_of_le within]
      simp
    · have full : buffer.drop data.length = [] := List.drop_eq_nil_of_le beyond
      rw [full, List.drop_append, full, List.take_add]
      simp

theorem gather_scatter (fits : data.length ≤ capacity buffers) :
    gather (scatter buffers data) = data ++ (gather buffers).drop data.length := by
  have within : data.length ≤ (buffers.take maxBuffers).flatten.length := fits
  rw [gather, take_scatter, flatten_scatter, List.take_of_length_le within]
  rfl

theorem drop_scatter_of_fits (fits : data.length ≤ capacity buffers) :
    (scatter buffers data).drop maxBuffers = buffers.drop maxBuffers := by
  have within : data.length ≤ (buffers.take maxBuffers).flatten.length := fits
  rw [drop_scatter, List.drop_eq_nil_of_le within, scatter_nil]

end AsyncFiles.Buffers
