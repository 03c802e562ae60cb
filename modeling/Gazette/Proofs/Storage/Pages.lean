import Mathlib.Data.List.Nodup
import Gazette.Proofs.Storage.Batches

/-!
# The pages of a listing

A listing has an entry for each active article that carries one of the tags that are asked for and has
been written by the author who is asked for, the newest first.  Its pages are cut out of these entries,
so pages that follow each other make up the whole, and none of them has an entry of another one.
-/

set_option autoImplicit false

namespace Gazette

open Tables Session Database

section Windows

variable {α : Type}

/-- A page of some items, counted from zero. -/
def page (items : List α) (size number : Nat) : List α :=
  (items.drop (number * size)).take size

/-- The first pages are the first items. -/
theorem flatMap_page (items : List α) (size count : Nat) :
    (List.range count).flatMap (page items size) = items.take (count * size) := by
  induction count with
  | zero => simp
  | succ count ih =>
    rw [List.range_succ, List.flatMap_append, ih, List.flatMap_singleton, page, Nat.succ_mul,
      List.take_add]

/-- Different pages of different items have none in common. -/
theorem disjoint_page {items : List α} (distinct : items.Nodup) (size : Nat) {first second : Nat}
    (apart : first ≠ second) : (page items size first).Disjoint (page items size second) := by
  -- both are among the pages up to the later one, which make up the beginning of the items
  have begun : ((List.range (max first second + 1)).flatMap (page items size)).Nodup := by
    rw [flatMap_page]
    exact distinct.sublist (List.take_sublist _ _)
  have pairs := (List.nodup_flatMap.mp begun).2
  have symmetric : Std.Symm (Function.onFun List.Disjoint (page items size)) :=
    ⟨fun _ _ => List.Disjoint.symm⟩
  refine pairs.forall ?_ ?_ apart
  · exact List.mem_range.mpr (Nat.lt_succ_of_le (Nat.le_max_left _ _))
  · exact List.mem_range.mpr (Nat.lt_succ_of_le (Nat.le_max_right _ _))

end Windows

/-- Whether an article carries one of some tags, in case there are any, and has been written by an author
with a username, in case there is one. -/
def Article.Matches (tags : List String) (author : Option String) (article : Article) : Prop :=
  (tags = [] ∨ ∃ tag ∈ article.tags, tag.name ∈ tags) ∧
    ∀ username, author = some username → article.author.username = username

namespace Tables

variable {tables : Tables} {article : Article} {criteria : ArticleCriteria} {entries : List Article}

/-- An article is linked to a tag with one of some names if and only if it carries one. -/
theorem Holds.carries_iff (sane : tables.Integrity) (held : tables.Holds article)
    (names : List String) :
    (∃ link ∈ tables.links, link.articleId = .integer article.id ∧
      ∃ tag ∈ tables.tags, link.tagId = .integer tag.id ∧ tag.name ∈ names.map Cell.text) ↔
      ∃ tag ∈ article.tags, tag.name ∈ names := by
  have carried (tag : Tag) : tag.row.columns ∈ tables.tagRows article.id ↔ tag ∈ article.tags := by
    rw [held.tags]
    exact List.mem_map_of_injective Tag.injective_columns
  constructor
  · rintro ⟨link, there, of_article, row, present, of_link, among⟩
    obtain ⟨name, asked, named⟩ := List.mem_map.mp among
    have has : tables.HasTag ⟨row.id, name⟩ := by
      rw [HasTag, named]
      exact present
    refine ⟨⟨row.id, name⟩, (carried _).mp ?_, asked⟩
    refine List.mem_filterMap.mpr ⟨link, List.mem_filter.mpr ⟨there, decide_eq_true of_article⟩, ?_⟩
    rw [of_link, sane.tag?_eq has]
    rfl
  · rintro ⟨tag, there, asked⟩
    obtain ⟨link, chosen, joined⟩ := List.mem_filterMap.mp ((carried tag).mpr there)
    obtain ⟨present, of_article⟩ := List.mem_filter.mp chosen
    obtain ⟨row, found, columns⟩ := Option.map_eq_some_iff.mp joined
    have own : Cell.integer row.id = link.tagId := by simpa using List.find?_some found
    have named : row.name = .text tag.name := by
      obtain ⟨name, -⟩ := List.cons.inj (List.cons.inj columns).2
      exact (Column.mk.inj name).2
    exact ⟨link, present, of_decide_eq_true of_article, row, List.mem_of_find?_eq_some found,
      own.symm, List.mem_map.mpr ⟨tag.name, asked, named.symm⟩⟩

/-- The account of an article's author has a username if and only if the author has. -/
theorem Holds.written_iff (sane : tables.Integrity) (held : tables.Holds article)
    (username : String) :
    (∃ account ∈ tables.accounts, article.row.authorId = .integer account.id ∧
      account.username = .text username) ↔ article.author.username = username := by
  obtain ⟨account, found, shows_⟩ := held.author
  have there := List.mem_of_find?_eq_some found
  have own : Cell.integer account.id = .integer article.author.id := by
    simpa using List.find?_some found
  constructor
  · rintro ⟨other, also_there, of_author, named⟩
    have same : account.id = other.id := Cell.integer.inj (own.trans of_author)
    obtain rfl := sane.accountIds.eq_of_id there also_there same
    exact Cell.text.inj (shows_.username.symm.trans named)
  · rintro rfl
    exact ⟨account, there, own.symm, shows_.username⟩

/-- An article that the tables hold passes the filter of a listing if and only if it is active and
matches. -/
theorem Holds.passes_iff (sane : tables.Integrity) (held : tables.Holds article) :
    tables.passes criteria article.row ↔
      article.deletedAtUnix = 0 ∧ article.Matches criteria.tags criteria.author := by
  have active : article.row.deletedAtUnix = .integer 0 ↔ article.deletedAtUnix = 0 :=
    ⟨Cell.integer.inj, congrArg Cell.integer⟩
  have own : article.row.id = article.id := rfl
  rw [Statement.passes_iff, active, own, held.carries_iff sane]
  simp only [held.written_iff sane]
  rfl

/-- Whether some articles are the entries of a listing: those that are active and match, each once, and
the newest first.  None is left out, because every row stores an article. -/
structure Enumerates (tables : Tables) (tags : List String) (author : Option String)
    (entries : List Article) : Prop where
  descending : (entries.map Article.id).Pairwise fun newer older => older < newer
  matching : ∀ entry ∈ entries,
    tables.Holds entry ∧ entry.deletedAtUnix = 0 ∧ entry.Matches tags author
  all : ∀ row ∈ tables.articles, ∃ article, tables.Holds article ∧ article.row = row ∧
    (article.deletedAtUnix = 0 → article.Matches tags author → article.id ∈ entries.map Article.id)

/-- What the filter of a listing selects are its entries. -/
theorem Selects.enumerates {shown : Instant → Prop} (selects : tables.Selects criteria entries)
    (orderly : tables.Orderly shown) :
    tables.Enumerates criteria.tags criteria.author entries where
  descending := selects.ids ▸ Statement.descending_matchingIds orderly.toIntegrity criteria
  matching entry there := by
    have row := List.mem_map_of_mem (f := Article.row) there
    rw [selects.rows, List.mem_reverse, List.mem_filter] at row
    have held := selects.held entry there
    exact ⟨held, (held.passes_iff orderly.toIntegrity).mp row.2⟩
  all row there := by
    obtain ⟨article, rfl, held, -⟩ := orderly.exists_article there
    refine ⟨article, held, rfl, fun active fits => ?_⟩
    rw [← selects.ids, Statement.mem_matchingIds]
    exact ⟨article.row, there, (held.passes_iff orderly.toIntegrity).mpr ⟨active, fits⟩, rfl⟩

end Tables

namespace Database

variable {db : Database} {tags : List String} {author : Option String} {entries : List Article}

/-- Whether the pages of a size, one after the other, give all entries of a listing as far as offsets
reach, with the same number on each page. -/
structure PagesThrough (db : Database) (tags : List String) (author : Option String)
    (entries : List Article) (size : UInt32) : Prop where
  listed : ∀ number, number * size.toNat < UInt32.size →
    db.Lists ⟨tags, author, .ofNat (number * size.toNat), size⟩
      (Listing.reread ⟨page entries size.toNat number, entries.length⟩)
  apart : ∀ first second, first ≠ second → ((page entries size.toNat first).map Article.id).Disjoint
    ((page entries size.toNat second).map Article.id)
  begun : ∀ count,
    (List.range count).flatMap (page entries size.toNat) = entries.take (count * size.toNat)
  whole : ∀ count, entries.length ≤ count * size.toNat →
    (List.range count).flatMap (page entries size.toNat) = entries

/-- Pages that are listed one by one give the whole. -/
theorem PagesThrough.of_lists (enumerates : db.tables.Enumerates tags author entries)
    (lists : ∀ offset limit : UInt32, db.Lists ⟨tags, author, offset, limit⟩
      (Listing.reread ⟨(entries.drop offset.toNat).take limit.toNat, entries.length⟩))
    (size : UInt32) : db.PagesThrough tags author entries size where
  listed number small := by
    have listed := lists (.ofNat (number * size.toNat)) size
    rw [UInt32.toNat_ofNat_of_lt' small] at listed
    exact listed
  apart first second other := by
    have distinct : (entries.map Article.id).Nodup :=
      enumerates.descending.imp fun less => (Int64.ne_of_lt less).symm
    have mapped (number : Nat) : (page entries size.toNat number).map Article.id =
        page (entries.map Article.id) size.toNat number := by
      rw [page, page, List.map_take, List.map_drop]
    rw [mapped, mapped]
    exact disjoint_page distinct size.toNat other
  begun count := flatMap_page entries size.toNat count
  whole count enough := by
    rw [flatMap_page, List.take_of_length_le enough]

/-- A listing has an entry for each active article that carries one of the tags, unless none is asked
for, and has been written by the author, unless none is asked for; it has the newest entries first and
none twice, although an article with several of the tags comes up once for each of them in the
statements.  A page is what the offset and the limit cut out of the entries, and it comes with the
number of all of them, as the statements count and select them.  So the pages of a size have no entries
in common, and together they are the whole listing.  A page can fail to be read only if the clock shows
a sign before a year. -/
theorem listings_page_through (visited : db.Visited) (tags : List String) (author : Option String) :
    ∃ entries, db.tables.Enumerates tags author entries ∧
      (∀ offset limit : UInt32,
        let criteria : ArticleCriteria := ⟨tags, author, offset, limit⟩
        let filter := Statement.articleFilter criteria
        let parameters := filter.parameters.map Cell.text
        let window := [limit, offset].map fun number => Cell.integer (.ofNat number.toNat)
        let listing : Listing := ⟨(entries.drop offset.toNat).take limit.toNat, entries.length⟩
        db.Lists criteria listing.reread ∧
        (Statement.listCount criteria).Gives (Statement.countArticles filter.text) db.tables parameters
          listing.total ∧
        (Statement.listIds criteria).Gives (Statement.selectArticleIds filter.text) db.tables
          (parameters ++ window) (listing.articles.map fun article => [.integer article.id])) ∧
      (∀ size, db.PagesThrough tags author entries size) ∧
      ((∀ reading, (db.clock reading).IsNear) →
        ∀ listing : Listing, listing.articles ⊆ entries → listing.reread = .ok listing) := by
  have ⟨orderly, linked⟩ := visited.within.tables
  have sane := orderly.toIntegrity
  -- which articles pass does not depend on the page
  obtain ⟨entries, selects, dated⟩ := orderly.exists_selected ⟨tags, author, 0, 0⟩
  have selects_page (offset limit : UInt32) :
      db.tables.Selects ⟨tags, author, offset, limit⟩ entries := ⟨selects.rows, selects.held⟩
  have lists (offset limit : UInt32) := visited.lists (selects_page offset limit)
  have enumerates := selects.enumerates orderly
  refine ⟨entries, enumerates, ?_, fun size => .of_lists enumerates lists size, ?_⟩
  · intro offset limit criteria filter parameters window listing
    have ids : db.tables.matchingIds criteria = entries.map Article.id := (selects_page offset limit).ids
    refine ⟨lists offset limit, ⟨Statement.listCount_text criteria, ?_⟩,
      ⟨Statement.listIds_text criteria, ?_⟩⟩
    · rw [Statement.number_listCount sane criteria, ids, List.length_map]
    · have small (number : UInt32) : (Int64.ofNat number.toNat).toInt.toNat = number.toNat := by
        have bound := number.toNat_lt
        rw [Int64.toInt_ofNat_of_lt (by omega), Int.toNat_natCast]
      have rows := Statement.rows_listIds sane criteria (.ofNat limit.toNat) (.ofNat offset.toNat)
      rw [ids, small, small, ← List.map_drop, ← List.map_take, List.map_map] at rows
      exact rows
  · intro near listing part
    exact Listing.reread_eq_ok.mpr
      ⟨fun article there => Article.near_of_shown near (dated article (part there)), rfl⟩

end Database

/-- A listing that asks for both tags of an article, and for one of them twice, has one entry for it, and
one article on each page of size one. -/
theorem listings_page_through_listed :
    let asked := ["rust", "go", "go"]
    Sample.listed.Visited ∧ ∃ newer older : Article,
      newer.tagNames = ["rust", "go"] ∧ older.tagNames = ["go"] ∧
      Sample.listed.tables.Enumerates asked none [newer, older] ∧
      Sample.listed.Lists ⟨asked, none, 0, 1⟩ (.ok ⟨[newer], 2⟩) ∧
      Sample.listed.Lists ⟨asked, none, 1, 1⟩ (.ok ⟨[older], 2⟩) ∧
      Sample.listed.Lists ⟨asked, none, 2, 1⟩ (.ok ⟨[], 2⟩) := by
  intro asked
  have visited : Sample.listed.Visited := .outside Sample.reachable_listed
  have outlined : Sample.outline
      (((Step.listArticles ⟨asked, none, 0, 20⟩).perform 3).run Sample.listed).1 =
        some ([["rust", "go"], ["go"]], 2) := by
    decide +kernel
  -- nothing else of the sample matters
  generalize Sample.listed = db at visited outlined ⊢
  obtain ⟨entries, enumerates, lists, -, -⟩ := Database.listings_page_through visited asked none
  rw [((lists 0 20).1 3).2] at outlined
  obtain ⟨newer, older, whole, newer_tags, older_tags⟩ := Sample.eq_ok_of_outline outlined
  obtain ⟨near, same⟩ := Listing.reread_eq_ok.mp whole
  obtain ⟨first, total⟩ := Listing.mk.inj same
  have all : entries = [newer, older] := by
    rw [← first]
    exact (List.take_of_length_le (total.le.trans (by decide))).symm
  subst all
  -- what has been read on one long page is read on the short ones
  have read (offset limit : UInt32) : db.Lists ⟨asked, none, offset, limit⟩
      (.ok ⟨([newer, older].drop offset.toNat).take limit.toNat, 2⟩) := by
    have part : ([newer, older].drop offset.toNat).take limit.toNat ⊆ [newer, older] :=
      List.Subset.trans (List.take_subset _ _) (List.drop_subset _ _)
    have again := Listing.reread_eq_ok.mpr
      ⟨fun article there => near article (part there), Eq.refl (Listing.mk _ 2)⟩
    exact again ▸ (lists offset limit).1
  exact ⟨visited, newer, older, newer_tags, older_tags, enumerates, read 0 1, read 1 1, read 2 1⟩

end Gazette
