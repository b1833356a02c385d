import CpldControl.Device.Error

/-!
# What the message of an error tells

An operator sees an error as a line of text.  Two of these texts start with the name of a
signal, which may be any text and could imitate another message up to its last words.  But
the last words are fixed, and those of different kinds of error do not end in one another.
What the words leave open is in front of them: the name, or the direction and the register
of a transaction.

The main statement is `messages_unambiguous`: equal messages are messages of equal errors.
-/

namespace CpldControl
namespace Device

open Chip (Register)
open Smbus (Direction Fault)

/-!
# Kinds of error and their last words
-/

inductive ErrorKind where
  | busFault (fault : Fault)
  | invalidInput
  | notWritable
  | notReadable
  | capabilityUnavailable
  | noSuchAttribute
  | identityUnavailable
deriving DecidableEq

namespace ErrorKind

def all : List ErrorKind :=
  [ busFault .addressNak, busFault .dataNak, busFault .arbitrationLost, busFault .overrun,
    busFault .notSupported, busFault .busy, busFault .timeout, invalidInput, notWritable,
    notReadable, capabilityUnavailable, noSuchAttribute, identityUnavailable ]

theorem mem_all (kind : ErrorKind) : kind ∈ all := by
  cases kind with
  | busFault fault => cases fault <;> decide
  | _ => decide

def lastWords : ErrorKind -> String
  | busFault fault => fault.message
  | invalidInput => "target field"
  | notWritable => " is read-only"
  | notReadable => " is write-only"
  | capabilityUnavailable => "byte data transfers"
  | noSuchAttribute => "attribute"
  | identityUnavailable => "bring-up"

theorem eq_of_lastWords_isSuffix {kind other : ErrorKind}
    (h : kind.lastWords.toList <:+ other.lastWords.toList) : kind = other := by
  have hall : forall kind, kind ∈ all -> forall other, other ∈ all ->
      kind.lastWords.toList <:+ other.lastWords.toList -> kind = other := by
    decide +kernel
  exact hall kind kind.mem_all other other.mem_all h

end ErrorKind

namespace Error

def kind : Error -> ErrorKind
  | busFault _ _ fault => .busFault fault
  | invalidInput => .invalidInput
  | notWritable _ => .notWritable
  | notReadable _ => .notReadable
  | capabilityUnavailable => .capabilityUnavailable
  | noSuchAttribute => .noSuchAttribute
  | identityUnavailable => .identityUnavailable

theorem lastWords_isSuffix (e : Error) : e.kind.lastWords.toList <:+ e.message.toList := by
  cases e with
  | busFault register direction fault =>
      rw [message, String.toList_append]
      exact List.suffix_append _ _
  | notWritable name =>
      rw [message, String.toList_append]
      exact List.suffix_append _ _
  | notReadable name =>
      rw [message, String.toList_append]
      exact List.suffix_append _ _
  | _ => decide +kernel

theorem kind_eq_of_message_eq {d e : Error} (h : d.message = e.message) : d.kind = e.kind := by
  have hd := d.lastWords_isSuffix
  rw [h] at hd
  rcases List.suffix_or_suffix_of_suffix hd e.lastWords_isSuffix with hsuffix | hsuffix
  · exact ErrorKind.eq_of_lastWords_isSuffix hsuffix
  · exact (ErrorKind.eq_of_lastWords_isSuffix hsuffix).symm

/-!
# The place of a failed transaction
-/

theorem direction_text_injective {direction other : Direction}
    (h : direction.text = other.text) : direction = other := by
  revert h
  cases direction <;> cases other <;> decide

theorem length_register_text (r : Register) : r.text.toList.length = 4 := by
  simp [Register.text, Text.hexPair]

theorem place_eq_of_message_eq {r s : Register} {direction other : Direction} {fault : Fault}
    (h : (busFault r direction fault).message = (busFault s other fault).message) :
    r = s ∧ direction = other := by
  have hfront := (String.append_left_inj ") ").mp ((String.append_left_inj fault.message).mp h)
  have hchars := congrArg String.toList hfront
  simp only [String.toList_append] at hchars
  -- the addresses at the end are of one length, so what is in front of them ends at one place
  have hlength : r.text.toList.length = s.text.toList.length := by
    rw [length_register_text, length_register_text]
  have hsplit := List.append_inj' hchars hlength
  have hdirection := List.append_cancel_left (List.append_cancel_right hsplit.1)
  exact ⟨Register.text_injective (String.toList_injective hsplit.2),
    direction_text_injective (String.toList_injective hdirection)⟩

theorem message_injective {d e : Error} (h : d.message = e.message) : d = e := by
  have hkind := kind_eq_of_message_eq h
  -- errors of two kinds are out, so each case is left with itself
  cases d <;> cases e <;> cases hkind
  case busFault.busFault =>
    rcases place_eq_of_message_eq h with ⟨rfl, rfl⟩
    rfl
  case notWritable.notWritable => rw [(String.append_left_inj " is read-only").mp h]
  case notReadable.notReadable => rw [(String.append_left_inj " is write-only").mp h]
  case invalidInput.invalidInput => rfl
  case capabilityUnavailable.capabilityUnavailable => rfl
  case noSuchAttribute.noSuchAttribute => rfl
  case identityUnavailable.identityUnavailable => rfl

/-!
# Messages
-/

structure Unambiguous (e : Error) : Prop where
  whole : forall d : Error, d.message = e.message ↔ d = e
  readOnly : forall name, e.message = name ++ " is read-only" ↔ e = notWritable name
  writeOnly : forall name, e.message = name ++ " is write-only" ↔ e = notReadable name
  transaction : forall (r : Register) (direction : Direction) (fault : Fault),
    e.message = "CPLD " ++ direction.text ++ " ERROR: reg(" ++ r.text ++ ") " ++ fault.message ↔
      e = busFault r direction fault

/-- No two errors have the same message, whatever text the name of a signal is.  A message
that ends as one about a signal is about a signal, and the message of a failed transaction
tells its register, its direction and its fault. -/
theorem messages_unambiguous (e : Error) : Unambiguous e := by
  have hwhole (d : Error) : e.message = d.message ↔ e = d :=
    ⟨message_injective, congrArg message⟩
  constructor
  case whole =>
    intro d
    rw [eq_comm, hwhole, eq_comm]
  case readOnly => exact fun name => hwhole (notWritable name)
  case writeOnly => exact fun name => hwhole (notReadable name)
  case transaction => exact fun r direction fault => hwhole (busFault r direction fault)

end Error
end Device
end CpldControl
