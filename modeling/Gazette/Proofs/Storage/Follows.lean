import Mathlib.Data.List.Nodup
import Gazette.Proofs.Storage.Lookup

/-!
# What statements leave of the articles

No statement takes an article away from its slug or changes the tags that are attached to it,
unless it works on that very slug.  Only the details of its author may change.  This holds
because accounts and tags are never removed and because an id is never given out twice.
-/

set_option autoImplicit false

namespace Gazette

namespace Tables

variable {tables before after later : Tables} {slug : String} {exempt : List String}

/-- Two states of the tables between which no article has been taken away or changed except under
the slugs in the list.  The details of accounts may have changed, but they can still be read. -/
structure Follows (exempt : List String) (before after : Tables) : Prop where
  accounts {reference : Cell} {account : AccountRow} {author : Author} :
    before.account? reference = some account → account.Shows author →
    ∃ account author, after.account? reference = some account ∧ account.Shows author
  rows {slug : String} {row : ArticleRow} : slug ∉ exempt →
    (before.activeWithSlug slug).head? = some row →
    (after.activeWithSlug slug).head? = some row ∧ after.tagRows row.id = before.tagRows row.id

namespace Follows

/-- Nothing has changed between a state of the tables and itself. -/
theorem refl (exempt : List String) (tables : Tables) : Follows exempt tables tables :=
  ⟨fun found shows_ => ⟨_, _, found, shows_⟩, fun _ found => ⟨found, rfl⟩⟩

/-- What neither of two steps changes is not changed by both together. -/
theorem trans (first : Follows exempt before after) (second : Follows exempt after later) :
    Follows exempt before later where
  accounts found shows_ := by
    obtain ⟨account, author, still_found, still_shows⟩ := first.accounts found shows_
    exact second.accounts still_found still_shows
  rows other found := by
    obtain ⟨still_found, same⟩ := first.rows other found
    obtain ⟨at_last, same_again⟩ := second.rows other still_found
    exact ⟨at_last, same_again.trans same⟩

/-- More slugs may be left out. -/
theorem mono {more : List String} (h : Follows exempt before after)
    (less : ∀ slug, slug ∈ exempt → slug ∈ more) : Follows more before after where
  accounts := h.accounts
  rows other := h.rows fun there => other (less _ there)

/-- A slug without an active article need not be left out. -/
theorem of_unused (h : Follows [slug] before after) (unused : before.activeWithSlug slug = []) :
    Follows [] before after where
  accounts := h.accounts
  rows {other row} _ found := by
    by_cases same : other = slug
    · subst same
      rw [unused] at found
      cases found
    · exact h.rows (by simpa using same) found

/-- Statements that leave articles, links and tags alone. -/
theorem of_accounts (accounts : ∀ {reference account author},
      before.account? reference = some account → AccountRow.Shows account author →
      ∃ account author, after.account? reference = some account ∧ AccountRow.Shows account author)
    (articles : after.articles = before.articles) (links : after.links = before.links)
    (tags : after.tags = before.tags) : Follows exempt before after where
  accounts := accounts
  rows _ found := by
    simp only [activeWithSlug, tagRows, tag?, articles, links, tags] at found ⊢
    exact ⟨found, trivial⟩

/-- Statements that leave the accounts alone. -/
theorem of_rows (accounts : after.accounts = before.accounts)
    (rows : ∀ {slug row}, slug ∉ exempt → (before.activeWithSlug slug).head? = some row →
      (after.activeWithSlug slug).head? = some row ∧ after.tagRows row.id = before.tagRows row.id) :
    Follows exempt before after where
  accounts found shows_ := ⟨_, _, by rw [account?, accounts]; exact found, shows_⟩
  rows := rows

/-- An article that has been found is found again, perhaps with other details of its author. -/
theorem finds (h : Follows exempt before after) {article : Article} (other : slug ∉ exempt)
    (found : before.Finds slug article) :
    ∃ again, after.Finds slug again ∧ again.anonymous = article.anonymous := by
  obtain ⟨row, account, first, author, stores, shows_, attached⟩ := found.rows
  obtain ⟨still_first, same_tags⟩ := h.rows other first
  obtain ⟨later, details, still_there, shows_later⟩ := h.accounts author shows_
  have same_id : details.id = article.author.id := by
    have here := List.find?_some author
    have there := List.find?_some still_there
    simp only [decide_eq_true_eq] at here there
    rw [shows_later.id, shows_.id]
    exact Cell.integer.inj (there.trans here.symm)
  refine ⟨{ article with author := details }, ⟨row, later, still_first, still_there,
    { stores with }, shows_later, ?_⟩, ?_⟩
  · rw [same_tags]
    exact attached
  · simp [Article.anonymous, same_id]

end Follows

/-- Every article with the id has the slug. -/
def Owned (tables : Tables) (id : Int64) (slug : String) : Prop :=
  ∀ row ∈ tables.articles, row.id = id → row.slug = .text slug

/-- A reference to an account still leads there after another account has been added. -/
theorem account?_append {reference : Cell} {account : AccountRow} (row : AccountRow)
    (h : tables.account? reference = some account) :
    account? { tables with accounts := tables.accounts ++ [row] } reference = some account := by
  simp only [account?] at h ⊢
  rw [List.find?_append, h]
  rfl

/-- A reference to a tag still leads there after another tag has been added. -/
theorem tag?_append {reference : Cell} (row : TagRow) (h : (tables.tag? reference).isSome) :
    tag? { tables with tags := tables.tags ++ [row] } reference = tables.tag? reference := by
  obtain ⟨tag, found⟩ := Option.isSome_iff_exists.mp h
  simp only [tag?] at found ⊢
  rw [List.find?_append, found]
  rfl

/-- Opening an account. -/
theorem follows_insertAccount {account : NewAccount} {stamp : Cell} (sound : tables.Sound)
    (done : insertAccount [] account stamp tables = .ok after) :
    after.Sound ∧ Follows [] tables after := by
  simp only [insertAccount, bind_ok_iff, unless_ok_iff, pure_ok_iff] at done
  obtain ⟨_, -, id, -, -, rfl⟩ := done
  refine ⟨⟨sound.distinct, sound.given, ?_, sound.attached⟩, ?_⟩
  · intro row there
    obtain ⟨author, found⟩ := Option.isSome_iff_exists.mp (sound.authors row there)
    exact Option.isSome_iff_exists.mpr ⟨author, account?_append _ found⟩
  · refine Follows.of_accounts ?_ (by rfl) (by rfl) (by rfl)
    intro reference found author there shows_
    exact ⟨found, author, account?_append _ there, shows_⟩

/-- Adding a tag. -/
theorem follows_upsertTag {name : String} (sound : tables.Sound)
    (done : upsertTag [] name tables = .ok after) : after.Sound ∧ Follows [] tables after := by
  simp only [upsertTag, bind_ok_iff] at done
  obtain ⟨_, -, id, -, made⟩ := done
  split at made
  · obtain rfl := pure_ok_iff.mp made
    exact ⟨{ sound with }, { Follows.refl [] tables with }⟩
  · obtain rfl := pure_ok_iff.mp made
    refine ⟨⟨sound.distinct, sound.given, sound.authors, ?_⟩, ?_⟩
    · intro link there
      have found := sound.attached link there
      rw [← tag?_append ⟨id, .text name⟩ found] at found
      exact found
    · refine Follows.of_rows (by rfl) ?_
      intro slug row _ found
      refine ⟨found, ?_⟩
      apply List.filterMap_congr
      intro link there
      have known := sound.attached link (List.mem_of_mem_filter there)
      exact congrArg (Option.map TagRow.columns) (tag?_append ⟨id, .text name⟩ known)

/-- The next id is one above the last. -/
theorem toInt_nextId {last id : Int64} (h : nextId last = .ok id) :
    id.toInt = last.toInt + 1 := by
  unfold nextId at h
  split at h
  · cases h
  · rename_i more
    cases h
    have low := Int64.le_toInt last
    have high := Int64.toInt_le last
    have below : last.toInt ≠ Int64.maxValue.toInt := fun same => more (Int64.toInt_inj.mp same)
    have largest : Int64.maxValue.toInt = 9223372036854775807 := by decide
    have smallest : Int64.minValue.toInt = -9223372036854775808 := by decide
    have one : (1 : Int64).toInt = 1 := by decide
    rw [Int64.toInt_add, one]
    apply Int.bmod_eq_of_le <;> omega

/-- The next id is greater than the last one. -/
theorem nextId_ok {last id : Int64} (h : nextId last = .ok id) : last < id := by
  have next := toInt_nextId h
  rw [Int64.lt_iff_toInt_lt]
  omega

/-- Adding an article: its slug was free, and its id is a new one. -/
theorem follows_insertArticle {article : NewArticle} {stamp : Cell} {id : Int64}
    (sound : tables.Sound) (done : insertArticle [] article stamp tables = .ok (id, after)) :
    after.Sound ∧ Follows [] tables after ∧ tables.activeWithSlug article.slug = [] ∧
      after.Owned id article.slug := by
  simp only [insertArticle, bind_ok_iff, unless_ok_iff, pure_ok_iff, Prod.mk.injEq] at done
  obtain ⟨_, -, given, next, free, known, rfl, rfl⟩ := done
  have free : tables.activeWithSlug article.slug = [] := Decidable.not_not.mp free
  obtain ⟨author, present⟩ : ∃ author, tables.account? (.integer article.authorId) = some author := by
    cases present : tables.account? (.integer article.authorId) with
    | none => exact absurd (by rw [present]; rfl) known
    | some author => exact ⟨author, rfl⟩
  have new : ∀ row ∈ tables.articles, row.id < given := fun row there =>
    Int64.lt_of_le_of_lt (sound.given row there) (nextId_ok next)
  refine ⟨⟨?_, ?_, ?_, sound.attached⟩, ?_, free, ?_⟩
  · rw [List.map_append, List.nodup_append]
    refine ⟨sound.distinct, List.pairwise_singleton _ _, ?_⟩
    intro id there other last
    obtain ⟨row, present, rfl⟩ := List.mem_map.mp there
    rw [List.map_singleton, List.mem_singleton] at last
    rw [last]
    exact Int64.ne_of_lt (new row present)
  · intro row there
    rcases List.mem_append.mp there with old | last
    · exact Int64.le_of_lt (new row old)
    · rw [List.mem_singleton.mp last]
      exact Int64.le_refl _
  · intro row there
    rcases List.mem_append.mp there with old | last
    · exact sound.authors row old
    · rw [List.mem_singleton.mp last]
      exact Option.isSome_iff_exists.mpr ⟨author, present⟩
  · refine Follows.of_rows (by rfl) ?_
    intro slug row _ found
    refine ⟨?_, rfl⟩
    rw [activeWithSlug] at found ⊢
    rw [List.filter_append, List.head?_append, found]
    rfl
  · intro row there same
    rcases List.mem_append.mp there with old | last
    · exact absurd same (Int64.ne_of_lt (new row old))
    · rw [List.mem_singleton.mp last]

/-- Placing a row among others brings in no other row. -/
theorem mem_place {α : Type} {id : α → Int64} {row other : α} {rows : List α}
    (h : other ∈ place id row rows) : other = row ∨ other ∈ rows := by
  rcases List.mem_append.mp h with front | back
  · exact .inr ((List.takeWhile_sublist _).mem front)
  · rcases List.mem_cons.mp back with same | back
    · exact .inl same
    · exact .inr ((List.dropWhile_sublist _).mem back)

/-- A row that is not wanted may be placed anywhere. -/
theorem filter_place {α : Type} {id : α → Int64} {row : α} {rows : List α} {holds : α → Bool}
    (h : holds row = false) : (place id row rows).filter holds = rows.filter holds := by
  unfold place
  rw [List.filter_append, List.filter_cons_of_neg (by simp [h]), ← List.filter_append,
    List.takeWhile_append_dropWhile]

/-- Tags of one article are no tags of another one. -/
theorem tagRows_of_links {id : Int64} (tags : after.tags = before.tags)
    (links : after.links.filter (fun row => row.articleId = .integer id) =
      before.links.filter fun row => row.articleId = .integer id) :
    after.tagRows id = before.tagRows id := by
  simp only [tagRows, tag?, tags, links]

/-- An article under another slug has another id. -/
theorem Owned.ne {id : Int64} {other : String} {row : ArticleRow} (owned : tables.Owned id slug)
    (different : other ∉ [slug]) (found : (tables.activeWithSlug other).head? = some row) :
    row.id ≠ id := by
  intro same
  have active := List.mem_of_mem_head? found
  have named := slug_of_mem_activeWithSlug active
  rw [owned row (List.mem_of_mem_filter active) same] at named
  apply different
  rw [List.mem_singleton]
  exact (Cell.text.inj named).symm

/-- Attaching a tag to the article with a slug. -/
theorem follows_insertLink {articleId tagId : Int64} (sound : tables.Sound)
    (owned : tables.Owned articleId slug)
    (done : insertLink [] articleId tagId tables = .ok after) :
    after.Sound ∧ Follows [slug] tables after ∧ after.articles = tables.articles := by
  simp only [insertLink, bind_ok_iff, unless_ok_iff, pure_ok_iff] at done
  obtain ⟨_, -, -, known, rfl⟩ := done
  refine ⟨⟨sound.distinct, sound.given, sound.authors, ?_⟩, ?_, rfl⟩
  · intro link there
    rcases mem_place there with rfl | old
    · simp only [Bool.or_eq_true, not_or, Option.isNone_iff_eq_none] at known
      exact Option.isSome_iff_ne_none.mpr known.2
    · exact sound.attached link old
  · refine Follows.of_rows (by rfl) ?_
    intro other row different found
    refine ⟨found, tagRows_of_links (by rfl) (filter_place ?_)⟩
    have distinct := owned.ne different found
    simpa using Ne.symm distinct

/-- Detaching all tags from the article with a slug. -/
theorem follows_deleteLinks {articleId : Int64} (sound : tables.Sound)
    (owned : tables.Owned articleId slug) :
    ∃ after, deleteLinks [] articleId tables = .ok after ∧ after.Sound ∧
      Follows [slug] tables after := by
  refine ⟨{ tables with links := tables.links.filter fun row => row.articleId ≠ .integer articleId },
    ?_, ⟨sound.distinct, sound.given, sound.authors, ?_⟩, ?_⟩
  · unfold deleteLinks
    split <;> rfl
  · intro link there
    exact sound.attached link (List.mem_of_mem_filter there)
  · refine Follows.of_rows (by rfl) ?_
    intro other row different found
    refine ⟨found, tagRows_of_links (by rfl) ?_⟩
    have distinct := owned.ne different found
    rw [List.filter_filter]
    apply List.filter_congr
    intro link _
    by_cases attached : link.articleId = .integer row.id
    · simp [attached, distinct]
    · simp [attached]

/-- Rows that are changed without being wanted before or after do not matter. -/
theorem filter_map_of_unwanted {α : Type} {rows : List α} {holds : α → Bool} {change : α → α}
    (h : ∀ row ∈ rows, change row = row ∨ (holds row = false ∧ holds (change row) = false)) :
    (rows.map change).filter holds = rows.filter holds := by
  induction rows with
  | nil => rfl
  | cons row rows ih =>
    have others := ih fun other there => h other (List.mem_cons_of_mem row there)
    rcases h row List.mem_cons_self with same | ⟨before, after⟩
    · rw [List.map_cons, same, List.filter_cons, List.filter_cons, others]
    · rw [List.map_cons, List.filter_cons_of_neg (by simp [after]),
        List.filter_cons_of_neg (by simp [before]), others]

/-- Changing articles one by one, and only those with a slug. -/
theorem follows_changeArticles (slug : String) (change : ArticleRow → ArticleRow)
    (sound : tables.Sound)
    (kept : ∀ row, (change row).id = row.id ∧ (change row).slug = row.slug ∧
      (change row).authorId = row.authorId)
    (only : ∀ row, row.slug ≠ .text slug → change row = row) :
    Sound { tables with articles := tables.articles.map change } ∧
      Follows [slug] tables { tables with articles := tables.articles.map change } ∧
      ∀ row ∈ tables.articles, row.slug = .text slug →
        Owned { tables with articles := tables.articles.map change } row.id slug := by
  refine ⟨⟨?_, ?_, ?_, sound.attached⟩, ?_, ?_⟩
  · have ids : (tables.articles.map change).map ArticleRow.id =
        tables.articles.map ArticleRow.id := by
      rw [List.map_map]
      exact List.map_congr_left fun row _ => (kept row).1
    rw [ids]
    exact sound.distinct
  · intro row there
    obtain ⟨old, old_there, rfl⟩ := List.mem_map.mp there
    rw [(kept old).1]
    exact sound.given old old_there
  · intro row there
    obtain ⟨old, old_there, rfl⟩ := List.mem_map.mp there
    rw [(kept old).2.2]
    exact sound.authors old old_there
  · refine Follows.of_rows (by rfl) ?_
    intro other row different found
    refine ⟨?_, rfl⟩
    rw [activeWithSlug] at found ⊢
    rw [filter_map_of_unwanted, found]
    intro old _
    by_cases named : old.slug = .text slug
    · have no_other : ¬ slug = other := fun same => different (by simp [same])
      simp [(kept old).2.1, named, no_other]
    · exact .inl (only old named)
  · intro row there named other other_there same
    obtain ⟨old, old_there, rfl⟩ := List.mem_map.mp other_there
    -- rows with one id are one row, so the slug of the changed row is that of the old one
    rw [(kept old).1] at same
    rw [(kept old).2.1, List.inj_on_of_nodup_map sound.distinct old_there there same]
    exact named

/-- Marking the article with a slug as deleted does not fail without triggers. -/
theorem follows_tombstoneArticle (authorId : Int64) (slug : String) (unix stamp : Cell)
    (sound : tables.Sound) :
    ∃ removed after, tombstoneArticle [] authorId slug unix stamp tables = .ok (removed, after) ∧
      after.Sound ∧ Follows [slug] tables after ∧
      (removed = none → after = tables) ∧ ∀ id, removed = some id → after.Owned id slug := by
  unfold tombstoneArticle
  simp only
  split
  · exact ⟨none, tables, rfl, sound, Follows.refl _ _, fun _ => rfl, fun _ none => by cases none⟩
  · rename_i chosen found
    have wanted := List.find?_some found
    have there := List.mem_of_find?_eq_some found
    simp only [Bool.and_eq_true, decide_eq_true_eq] at wanted
    obtain ⟨still_sound, follows, owned⟩ := follows_changeArticles slug
      (fun row => if
        (decide (row.slug = .text slug) && decide (row.authorId = .integer authorId) &&
          row.isActive) = true then { row with deletedAtUnix := unix, updatedAt := stamp }
        else row) sound
      (by
        intro row
        split <;> exact ⟨rfl, rfl, rfl⟩)
      (by
        intro row other
        simp [other])
    refine ⟨some chosen.id, _, rfl, still_sound, follows, fun none => (by cases none), ?_⟩
    intro id same
    cases same
    exact owned chosen there wanted.1.1

/-- Statements that only work on comments. -/
theorem follows_comments {comments : List CommentRow} {lastComment : Int64} (sound : tables.Sound) :
    Sound { tables with comments, lastComment } ∧
      Follows [] tables { tables with comments, lastComment } :=
  ⟨{ sound with }, { Follows.refl [] tables with }⟩

/-- Inserting a comment changes no article. -/
theorem follows_insertComment {comment : NewComment} {stamp : Cell} {id : Int64}
    (sound : tables.Sound) (done : insertComment [] slug comment stamp tables = .ok (id, after)) :
    after.Sound ∧ Follows [] tables after := by
  simp only [insertComment, bind_ok_iff, unless_ok_iff, pure_ok_iff, Prod.mk.injEq] at done
  obtain ⟨_, -, _, -, -, -, rfl⟩ := done
  exact follows_comments sound

/-- Marking comments as deleted changes no article. -/
theorem follows_tombstoneComments {chosen : CommentRow → Bool} {stamp : Cell} {count : Nat}
    (sound : tables.Sound)
    (done : tombstoneComments [] chosen stamp tables = .ok (count, after)) :
    after.Sound ∧ Follows [] tables after := by
  unfold tombstoneComments at done
  simp only at done
  split at done
  · cases pure_ok_iff.mp done
    exact ⟨sound, Follows.refl _ _⟩
  · simp only [bind_ok_iff, pure_ok_iff, Prod.mk.injEq] at done
    obtain ⟨_, -, -, rfl⟩ := done
    exact follows_comments sound

/-- A patch leaves the details of an account readable. -/
theorem shows_patchRow {row : AccountRow} {author : Author} (patch : AccountPatch) (stamp : Cell)
    (shows_ : row.Shows author) : ∃ later, (patchRow patch stamp row).Shows later := by
  refine ⟨⟨row.id, patch.username.getD author.username, patch.bio.getD author.bio,
    patch.image.getD author.image⟩, rfl, ?_, ?_, ?_⟩
  · cases given : patch.username <;> simp [patchRow, given, shows_.username]
  · cases given : patch.bio <;> simp [patchRow, given, shows_.bio]
  · cases given : patch.image <;> simp [patchRow, given, shows_.image]

/-- Accounts that are changed one by one keep their ids. -/
theorem account?_map {change : AccountRow → AccountRow} (ids : ∀ row, (change row).id = row.id)
    (reference : Cell) :
    account? { tables with accounts := tables.accounts.map change } reference =
      (tables.account? reference).map change := by
  unfold account?
  rw [List.find?_map]
  congr 2
  funext row
  simp [ids]

/-- Changing an account. -/
theorem follows_updateAccount {email : String} {patch : AccountPatch} {stamp : Cell} {count : Nat}
    (sound : tables.Sound)
    (done : updateAccount [] email patch stamp tables = .ok (count, after)) :
    after.Sound ∧ Follows [] tables after := by
  unfold updateAccount at done
  simp only at done
  split at done
  · cases pure_ok_iff.mp done
    exact ⟨sound, Follows.refl _ _⟩
  · simp only [bind_ok_iff, unless_ok_iff, pure_ok_iff, Prod.mk.injEq] at done
    obtain ⟨_, -, -, -, rfl⟩ := done
    have ids : ∀ row : AccountRow,
        (if row.email = .text email then patchRow patch stamp row else row).id = row.id := by
      intro row
      split <;> rfl
    refine ⟨⟨sound.distinct, sound.given, ?_, sound.attached⟩, ?_⟩
    · intro row there
      have known := sound.authors row there
      rw [account?_map ids, Option.isSome_map]
      exact known
    · refine Follows.of_accounts ?_ (by rfl) (by rfl) (by rfl)
      intro reference account author found shows_
      rw [account?_map ids, found, Option.map_some]
      by_cases wanted : account.email = .text email
      · obtain ⟨later, shows_later⟩ := shows_patchRow patch stamp shows_
        exact ⟨_, later, rfl, by rwa [if_pos wanted]⟩
      · exact ⟨_, author, rfl, by rwa [if_neg wanted]⟩

end Tables

end Gazette
