import Mathlib.Data.List.Basic
import Gazette.Proofs.Json.RoundTrip
import Gazette.Proofs.Json.Timestamps

/-!
# Everything that can be put into a cache is read back

Natural numbers of 32 bits and values that may be missing have lawful codecs too, and with them
every record of the library.  A value that may be missing is written as `null` or as itself, so
its own bytes must not begin as `null` does.  The main statement is `payloads_round_trip`: each
record is read back from its payload, no two records share a payload, and writing anew what was
read changes nothing that a reader could see.  With timestamps in place of instants this is so for the
settled ones; any other timestamp is read back as the one that it settles to.
-/

set_option autoImplicit false

namespace Gazette

open Json

namespace Codec

variable {α : Type} {codec : Codec α}

/-- A number of 32 bits is read back. -/
theorem lawful_uint32 : uint32.Lawful where
  begins value := begins_integer value.toNat
  read value rest ends := by
    have low : (0 : Int) ≤ value.toNat := Int.natCast_nonneg _
    have high : (value.toNat : Int) ≤ largestUInt32 := by
      have bound := value.toNat_lt
      unfold largestUInt32
      omega
    have smallest : smallestInt64 ≤ (value.toNat : Int) := Int.le_trans (by decide) low
    have largest : (value.toNat : Int) ≤ largestUInt64 := Int.le_trans high (by decide)
    have whole := readInteger_bytes .uint32 ⟨low, high⟩ smallest largest ends
    have reads : uint32.read (uint32.write value ++ rest) =
        (readInteger 0 largestUInt32 .uint32
          (Utf8.bytes (toString (value.toNat : Int)) ++ rest)).map _ := rfl
    rw [reads, whole]
    simp only [Except.map, Int.toNat_natCast, UInt32.ofNat_toNat]

/-- The word for a missing value begins with an n. -/
theorem bytes_null : Utf8.bytes "null" = Ascii.lowerN :: nullRest := by
  decide

/-- No value of the codec is written with the mark in front. -/
def Unlike (codec : Codec α) (mark : UInt8) : Prop :=
  ∀ value tail, codec.write value ≠ mark :: tail

/-- A text cannot be taken for the word for a missing value. -/
theorem text_unlike_null : text.Unlike Ascii.lowerN := by
  intro value tail same
  have first : Ascii.quote = Ascii.lowerN := (List.cons.inj same).1
  exact absurd first (by decide)

/-- An instant cannot be taken for the word for a missing value. -/
theorem instant_unlike_null : instant.Unlike Ascii.lowerN := by
  intro value tail same
  exact text_unlike_null value.text tail same

/-- A value that may be missing is read back, if what is there cannot be taken for `null`. -/
theorem Lawful.optional (lawful : codec.Lawful) (unlike : codec.Unlike Ascii.lowerN) :
    codec.optional.Lawful where
  begins value := by
    cases value with
    | none => exact ⟨Ascii.lowerN, nullRest, bytes_null, rfl, by decide⟩
    | some value => exact lawful.begins value
  read value rest ends := by
    cases value with
    | none =>
      have written : codec.optional.write none = Ascii.lowerN :: nullRest := bytes_null
      have reads : codec.optional.read (Ascii.lowerN :: (nullRest ++ rest)) =
          (word nullRest (nullRest ++ rest)).map fun rest => (none, rest) := rfl
      rw [written, List.cons_append, reads, word_append]
      rfl
    | some value =>
      obtain ⟨b, tail, begun, begins⟩ := lawful.begins value
      have no_null : after? Ascii.lowerN (skipBlank (codec.write value ++ rest)) = none := by
        rw [begun, List.cons_append, skipBlank_cons _ begins.solid, after?, if_neg]
        rintro rfl
        exact unlike value tail begun
      have written : codec.optional.write (some value) = codec.write value := rfl
      rw [written]
      simp only [Codec.optional, no_null, lawful.read value ends]
      rfl

/-- A codec under which a value and its payload stand for each other. -/
structure RoundTrips (codec : Codec α) : Prop where
  /-- A payload is read back into the value that it was written for. -/
  back (value : α) : codec.decode (codec.encode value) = .ok value
  /-- Different values have different payloads. -/
  apart : Function.Injective codec.encode
  /-- A payload that is accepted says the same once its value has been written anew. -/
  again (payload : Payload) (value : α) : codec.decode payload = .ok value →
    codec.decode (codec.encode value) = codec.decode payload

/-- Lawful codecs make round trips. -/
theorem Lawful.roundTrips (lawful : codec.Lawful) : codec.RoundTrips where
  back := lawful.decode_encode
  apart value other same := by
    have read : codec.decode (codec.encode value) = codec.decode (codec.encode other) := by
      rw [same]
    rw [lawful.decode_encode, lawful.decode_encode] at read
    exact Except.ok.inj read
  again payload value accepted := by
    rw [accepted, lawful.decode_encode]

/-- A codec under which a payload stands for what its values settle to. -/
structure RoundTripsTo (codec : Codec α) (settle : α → α) : Prop where
  /-- A payload is read back into what the value that it was written for settles to. -/
  back (value : α) : codec.decode (codec.encode value) = .ok (settle value)
  /-- Exactly the values that settle to the same have the same payload. -/
  apart (value other : α) : codec.encode value = codec.encode other ↔ settle value = settle other
  /-- A payload that is accepted says the same once its value has been written anew. -/
  again (payload : Payload) (value : α) : codec.decode payload = .ok value →
    codec.decode (codec.encode value) = codec.decode payload

/-- A value of another type is written as what is taken of it. -/
theorem encode_imap {β : Type} (make : α → β) (take : β → α) (value : β) :
    (codec.imap make take).encode value = codec.encode (take value) :=
  rfl

/-- A payload of another type is read as it was and then made into a value of that type. -/
theorem decode_imap {β : Type} (make : α → β) (take : β → α) (payload : Payload) :
    (codec.imap make take).decode payload = (codec.decode payload).map make := by
  simp only [decode, imap]
  cases codec.read payload with
  | error fault => rfl
  | ok found =>
    obtain ⟨value, rest⟩ := found
    simp only [Except.map, bind, Except.bind]
    split <;> rfl

/-- If the values of a codec that makes round trips are kept in another type, a value of that type
settles to what is kept of what is written for it. -/
theorem RoundTrips.imap {β : Type} (trips : codec.RoundTrips) {make : α → β} {take : β → α}
    (back : ∀ value, take (make value) = value) :
    (codec.imap make take).RoundTripsTo fun value => make (take value) where
  back value := by
    rw [decode_imap, encode_imap, trips.back]
    rfl
  apart value other := by
    rw [encode_imap, encode_imap, trips.apart.eq_iff,
      (Function.LeftInverse.injective back).eq_iff]
  again payload value accepted := by
    rw [decode_imap] at accepted ⊢
    rw [decode_imap, encode_imap, trips.back]
    obtain ⟨kept, read, rfl⟩ : ∃ kept, codec.decode payload = .ok kept ∧ make kept = value := by
      cases read : codec.decode payload with
      | error fault =>
        rw [read] at accepted
        cases accepted
      | ok kept =>
        rw [read] at accepted
        exact ⟨kept, rfl, Except.ok.inj accepted⟩
    rw [back, read]

end Codec

open Codec

/-- A new account is read back from its payload. -/
theorem NewAccount.lawful_codec : NewAccount.codec.Lawful := by
  apply Codec.Lawful.imap
  · exact lawful_record _ (.cons (by decide) lawful_text <| .cons (by decide) lawful_text <|
      .cons (by decide) lawful_text <| .cons (by decide) lawful_text <|
      .cons (by decide) lawful_text .nil)
  · intro account
    rfl

/-- A patch is read back from its payload, with the fields that it leaves alone. -/
theorem AccountPatch.lawful_codec : AccountPatch.codec.Lawful := by
  have maybe := lawful_text.optional text_unlike_null
  apply Codec.Lawful.imap
  · exact lawful_record _ (.cons (by decide) maybe <| .cons (by decide) maybe <|
      .cons (by decide) maybe <| .cons (by decide) maybe .nil)
  · intro patch
    rfl

/-- A new article is read back from its payload. -/
theorem NewArticle.lawful_codec : NewArticle.codec.Lawful := by
  apply Codec.Lawful.imap
  · exact lawful_record _ (.cons (by decide) lawful_text <| .cons (by decide) lawful_text <|
      .cons (by decide) lawful_text <| .cons (by decide) lawful_int64 <|
      .cons (by decide) lawful_text.list .nil)
  · intro article
    rfl

/-- A comment is read back from its payload. -/
theorem Comment.lawful_codec : Comment.codec.Lawful := by
  apply Codec.Lawful.imap
  · exact lawful_record _ (.cons (by decide) lawful_int64 <| .cons (by decide) lawful_text <|
      .cons (by decide) lawful_text <| .cons (by decide) Author.lawful_codec <|
      .cons (by decide) lawful_instant <| .cons (by decide) lawful_instant <|
      .cons (by decide) (lawful_instant.optional instant_unlike_null) .nil)
  · intro comment
    rfl

/-- A new comment is read back from its payload. -/
theorem NewComment.lawful_codec : NewComment.codec.Lawful := by
  apply Codec.Lawful.imap
  · exact lawful_record _ (.cons (by decide) lawful_text <| .cons (by decide) lawful_int64 .nil)
  · intro comment
    rfl

/-- The criteria of a listing are read back from their payload. -/
theorem ArticleCriteria.lawful_codec : ArticleCriteria.codec.Lawful := by
  apply Codec.Lawful.imap
  · exact lawful_record _ (.cons (by decide) lawful_text.list <|
      .cons (by decide) (lawful_text.optional text_unlike_null) <|
      .cons (by decide) lawful_uint32 <| .cons (by decide) lawful_uint32 .nil)
  · intro criteria
    rfl

/-- Accounts with timestamps settle to accounts with settled timestamps. -/
theorem Account.roundTripsTo_timestamped :
    Account.timestamped.RoundTripsTo (Account.map Timestamp.settled) :=
  Account.lawful_codec.roundTrips.imap fun account => by
    simp only [Account.map, Timestamp.written_kept]

/-- Articles with timestamps settle to articles with settled timestamps. -/
theorem Article.roundTripsTo_timestamped :
    Article.timestamped.RoundTripsTo (Article.map Timestamp.settled) :=
  Article.lawful_codec.roundTrips.imap fun article => by
    simp only [Article.map, Timestamp.written_kept]

/-- Comments with timestamps settle to comments with settled timestamps. -/
theorem Comment.roundTripsTo_timestamped :
    Comment.timestamped.RoundTripsTo (Comment.map Timestamp.settled) := by
  have same : Comment.map Timestamp.settled =
      fun comment => (comment.map Timestamp.written).map Instant.kept := by
    funext comment
    simp only [Comment.map, Option.map_map]
    rfl
  rw [same]
  apply Comment.lawful_codec.roundTrips.imap
  intro comment
  obtain ⟨_, _, _, _, _, _, deletedAt⟩ := comment
  cases deletedAt <;> simp only [Comment.map, Timestamp.written_kept, Option.map_none, Option.map_some]

/-- Whatever its texts, numbers, tags and instants are, each record is read back from its payload,
and so the payload determines the record.  If its stamps are any timestamps, it is read back with the
timestamps that they settle to, and so exactly if these are settled it is read back as it was; its
payload determines the record up to this. -/
theorem payloads_round_trip :
    (Account.codec.RoundTrips ∧ NewAccount.codec.RoundTrips ∧ AccountPatch.codec.RoundTrips ∧
      Article.codec.RoundTrips ∧ Comment.codec.RoundTrips ∧ Author.codec.RoundTrips ∧
      Tag.codec.RoundTrips ∧ NewArticle.codec.RoundTrips ∧ NewComment.codec.RoundTrips ∧
      ArticleCriteria.codec.RoundTrips) ∧
    (Account.timestamped.RoundTripsTo (Account.map Timestamp.settled) ∧
      ∀ account : Account Timestamp, account.map Timestamp.settled = account ↔
        account.createdAt.IsSettled ∧ account.updatedAt.IsSettled) ∧
    (Article.timestamped.RoundTripsTo (Article.map Timestamp.settled) ∧
      ∀ article : Article Timestamp, article.map Timestamp.settled = article ↔
        article.createdAt.IsSettled ∧ article.updatedAt.IsSettled) ∧
    Comment.timestamped.RoundTripsTo (Comment.map Timestamp.settled) ∧
      ∀ comment : Comment Timestamp, comment.map Timestamp.settled = comment ↔
        comment.createdAt.IsSettled ∧ comment.updatedAt.IsSettled ∧
          ∀ stamp ∈ comment.deletedAt, stamp.IsSettled := by
  refine ⟨⟨Account.lawful_codec.roundTrips, NewAccount.lawful_codec.roundTrips,
      AccountPatch.lawful_codec.roundTrips, Article.lawful_codec.roundTrips,
      Comment.lawful_codec.roundTrips, Author.lawful_codec.roundTrips, Tag.lawful_codec.roundTrips,
      NewArticle.lawful_codec.roundTrips, NewComment.lawful_codec.roundTrips,
      ArticleCriteria.lawful_codec.roundTrips⟩, ⟨Account.roundTripsTo_timestamped, ?_⟩,
    ⟨Article.roundTripsTo_timestamped, ?_⟩, Comment.roundTripsTo_timestamped, ?_⟩
  · intro account
    simp only [Account.map_eq_self_iff, Timestamp.settled_eq_self_iff]
  · intro article
    simp only [Article.map_eq_self_iff, Timestamp.settled_eq_self_iff]
  · intro comment
    simp only [Comment.map_eq_self_iff, Timestamp.settled_eq_self_iff]

namespace Sample

/-- Half a second into a leap second after second 30. -/
def unsettled : Timestamp :=
  ⟨⟨2016, 6, 30, by decide, by decide, by decide⟩, 21, 43, 30, 1500000000, by decide, by decide,
    by decide, by decide⟩

/-- Half a second into second 31. -/
def following : Timestamp :=
  ⟨⟨2016, 6, 30, by decide, by decide, by decide⟩, 21, 43, 31, 500000000, by decide, by decide,
    by decide, by decide⟩

/-- A comment that has been made and last been changed at some moment. -/
def commentAt (stamp : Timestamp) : Comment Timestamp :=
  ⟨1, "c", "s", ⟨2, "v", "", ""⟩, stamp, stamp, none⟩

end Sample

/-- A comment made in a leap second after second 30 has the payload of one made in second 31, and that
is what is read back. -/
theorem payloads_not_round_trip :
    Comment.timestamped.encode (Sample.commentAt Sample.unsettled) =
        Comment.timestamped.encode (Sample.commentAt Sample.following) ∧
      Comment.timestamped.decode
          (Comment.timestamped.encode (Sample.commentAt Sample.unsettled)) =
        .ok (Sample.commentAt Sample.following) ∧
      Sample.commentAt Sample.unsettled ≠ Sample.commentAt Sample.following ∧
      Sample.unsettled.written.text = "2016-06-30T21:43:31.500Z" := by
  have settles : (Sample.commentAt Sample.unsettled).map Timestamp.settled =
      Sample.commentAt Sample.following := rfl
  have settled : (Sample.commentAt Sample.following).map Timestamp.settled =
      Sample.commentAt Sample.following := rfl
  have apart : Sample.commentAt Sample.unsettled ≠ Sample.commentAt Sample.following := by
    intro same
    have seconds := congrArg (fun comment => comment.createdAt.second) same
    exact absurd seconds (by decide)
  have trips := Comment.roundTripsTo_timestamped
  exact ⟨(trips.apart _ _).mpr (settles.trans settled.symm), (trips.back _).trans (by rw [settles]),
    apart, by decide +kernel⟩

end Gazette
