import Mathlib.Data.List.Basic
import Gazette.Account
import Gazette.Article

/-!
# Timestamps

In memory a moment is kept as its second and the nanoseconds since that second began.  If these are a
second or more, the moment lies in a leap second.  There are leap seconds after second 59, which are
written as second 60 and read as such.  Nothing in memory rules out a leap second after another one, but
the written form has no place for it: it is written as the second that follows, and that is what is read
back.  No clock shows such a moment and no reader gives one, so the stamps of a program are instants;
who makes a timestamp field by field can make one.
-/

set_option autoImplicit false

namespace Gazette

/-- A moment in universal time as it is kept in memory.  From 1000000000 on the nanoseconds count into a
leap second after the second. -/
structure Timestamp where
  date : Date
  hour : Nat
  minute : Nat
  second : Nat
  nano : Nat
  hour_lt : hour < 24
  minute_lt : minute < 60
  second_lt : second < 60
  nano_lt : nano < 2000000000

namespace Timestamp

/-- The instant that is written for a timestamp: a leap second has the number after its second. -/
def written (t : Timestamp) : Instant where
  date := t.date
  time :=
    { hour := t.hour
      minute := t.minute
      second := t.second + t.nano / 1000000000
      nano := t.nano % 1000000000
      hour_lt := t.hour_lt
      minute_lt := t.minute_lt
      second_le := by
        have second := t.second_lt
        have nano := t.nano_lt
        omega
      nano_lt := Nat.mod_lt _ (by decide) }

/-- Whether a timestamp lies in no leap second but one at the end of a minute. -/
def IsSettled (t : Timestamp) : Prop :=
  t.nano < 1000000000 ∨ t.second = 59

instance (t : Timestamp) : Decidable t.IsSettled :=
  inferInstanceAs (Decidable (t.nano < 1000000000 ∨ t.second = 59))

end Timestamp

/-- The timestamp that is kept of an instant that has been read: second 60 is a leap second after
second 59. -/
def Instant.kept (i : Instant) : Timestamp where
  date := i.date
  hour := i.time.hour
  minute := i.time.minute
  second := min i.time.second 59
  nano := i.time.nano + (i.time.second - 59) * 1000000000
  hour_lt := i.time.hour_lt
  minute_lt := i.time.minute_lt
  second_lt := by omega
  nano_lt := by
    have second := i.time.second_le
    have nano := i.time.nano_lt
    omega

namespace Timestamp

/-- The timestamp that is read back after one has been written. -/
def settled (t : Timestamp) : Timestamp :=
  t.written.kept

/-- What has been read is written as it was. -/
theorem written_kept (i : Instant) : i.kept.written = i := by
  obtain ⟨date, ⟨hour, minute, second, nano, hour_lt, minute_lt, second_le, nano_lt⟩⟩ := i
  simp only [Instant.kept, written, Instant.mk.injEq, TimeOfDay.mk.injEq, true_and]
  omega

/-- Exactly the settled timestamps are read back as they were. -/
theorem settled_eq_self_iff {t : Timestamp} : t.settled = t ↔ t.IsSettled := by
  obtain ⟨date, hour, minute, second, nano, hour_lt, minute_lt, second_lt, nano_lt⟩ := t
  simp only [settled, Instant.kept, written, IsSettled, Timestamp.mk.injEq, true_and]
  omega

/-- No reader gives a timestamp that is not settled. -/
theorem isSettled_kept (i : Instant) : i.kept.IsSettled := by
  rw [← settled_eq_self_iff, settled, written_kept]

end Timestamp

variable {α β : Type}

/-- The account with other stamps. -/
def Account.map (change : α → β) (account : Account α) : Account β :=
  { account with
    createdAt := change account.createdAt
    updatedAt := change account.updatedAt }

/-- The article with other stamps. -/
def Article.map (change : α → β) (article : Article α) : Article β :=
  { article with
    createdAt := change article.createdAt
    updatedAt := change article.updatedAt }

/-- The comment with other stamps. -/
def Comment.map (change : α → β) (comment : Comment α) : Comment β :=
  { comment with
    createdAt := change comment.createdAt
    updatedAt := change comment.updatedAt
    deletedAt := comment.deletedAt.map change }

/-- Accounts with timestamps in payloads. -/
def Account.timestamped : Codec (Account Timestamp) :=
  Account.codec.imap (Account.map Instant.kept) (Account.map Timestamp.written)

/-- Articles with timestamps in payloads. -/
def Article.timestamped : Codec (Article Timestamp) :=
  Article.codec.imap (Article.map Instant.kept) (Article.map Timestamp.written)

/-- Comments with timestamps in payloads. -/
def Comment.timestamped : Codec (Comment Timestamp) :=
  Comment.codec.imap (Comment.map Instant.kept) (Comment.map Timestamp.written)

/-- An account stays the same if and only if its stamps do. -/
theorem Account.map_eq_self_iff {change : α → α} {account : Account α} :
    account.map change = account ↔
      change account.createdAt = account.createdAt ∧ change account.updatedAt = account.updatedAt := by
  cases account
  simp [Account.map]

/-- An article stays the same if and only if its stamps do. -/
theorem Article.map_eq_self_iff {change : α → α} {article : Article α} :
    article.map change = article ↔
      change article.createdAt = article.createdAt ∧ change article.updatedAt = article.updatedAt := by
  cases article
  simp [Article.map]

/-- A comment stays the same if and only if its stamps do, that of its deletion included. -/
theorem Comment.map_eq_self_iff {change : α → α} {comment : Comment α} :
    comment.map change = comment ↔
      change comment.createdAt = comment.createdAt ∧
        change comment.updatedAt = comment.updatedAt ∧
        ∀ stamp ∈ comment.deletedAt, change stamp = stamp := by
  obtain ⟨_, _, _, _, _, _, deletedAt⟩ := comment
  cases deletedAt <;> simp [Comment.map]

end Gazette
