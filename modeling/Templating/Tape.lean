import Templating.Encoding

/-!
# Tapes

A `Tape` is a sequence of bytes that are still to be read, together with their
number, so that what is left can be asked for at every step.
-/

namespace Templating

structure Tape where
  bytes : Bytes
  length : Nat
  length_eq : length = bytes.length

namespace Tape

@[ext]
theorem ext {s t : Tape} (h : s.bytes = t.bytes) : s = t := by
  obtain ⟨bytes, n, hn⟩ := s
  obtain ⟨bytes', m, hm⟩ := t
  cases h
  rw [← hm] at hn
  cases hn
  rfl

def ofBytes (bytes : Bytes) : Tape := ⟨bytes, bytes.length, rfl⟩

def empty : Tape := ofBytes []

instance : Inhabited Tape := ⟨empty⟩

def isEmpty (t : Tape) : Bool := t.bytes.isEmpty

def take (t : Tape) (count : Nat) : Bytes := t.bytes.take count

/-- The tape without its first `count` bytes. -/
def drop (t : Tape) (count : Nat) : Tape :=
  ⟨t.bytes.drop count, t.length - count, by rw [List.length_drop, t.length_eq]⟩

def append (t : Tape) (bytes : Bytes) : Tape :=
  ⟨t.bytes ++ bytes, t.length + bytes.length, by rw [List.length_append, t.length_eq]⟩

@[simp]
theorem bytes_ofBytes (bytes : Bytes) : (ofBytes bytes).bytes = bytes := rfl

@[simp]
theorem bytes_drop (t : Tape) (count : Nat) : (t.drop count).bytes = t.bytes.drop count := rfl

@[simp]
theorem bytes_append (t : Tape) (bytes : Bytes) : (t.append bytes).bytes = t.bytes ++ bytes := rfl

end Tape

end Templating
