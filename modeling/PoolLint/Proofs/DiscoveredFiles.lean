import PoolLint.Proofs.AlikeTrees

/-! The source files that are found in a directory. Each is found once, since no two items have the
same place and a path tells the directories that lead to it. They come out in ascending order, and
that order tells any two paths apart, so trees that hold the same items give the same list. -/
namespace PoolLint.FileTree

section Named

variable {t : FileTree} {options : SearchOptions} {p q : Path} {listed : Listing} {n : Nat}

theorem exists_of_mem_candidates (isAsked : q ∈ t.candidates p listed) :
    ∃ name ∈ listed.names, q = p.child name := by
  obtain ⟨name, inside, rfl⟩ := List.mem_map.mp isAsked
  exact ⟨name, (List.mem_filter.mp inside).1, rfl⟩

theorem exists_of_mem_entered (isEntered : q ∈ t.entered options p listed) :
    ∃ name ∈ listed.names, q = p.child name := by
  obtain ⟨name, inside, rfl⟩ := List.mem_map.mp isEntered
  exact ⟨name, (List.mem_filter.mp inside).1, rfl⟩

theorem names_of_enters (enters : t.Enters options n p q) : ∃ rest, q.names = p.names ++ rest := by
  induction enters with
  | here p => exact ⟨[], (List.append_nil p.names).symm⟩
  | down n p d q listed _ isEntered _ ih =>
    obtain ⟨name, -, rfl⟩ := exists_of_mem_entered isEntered
    obtain ⟨rest, names⟩ := ih
    exact ⟨name :: rest, by rw [names, Path.child, List.append_assoc, List.singleton_append]⟩

theorem names_of_asks (asks : t.Asks options p q) :
    ∃ name rest, q.names = p.names ++ name :: rest := by
  obtain ⟨n, d, listed, enters, -, isAsked⟩ := asks
  obtain ⟨rest, names⟩ := names_of_enters enters
  obtain ⟨name, -, rfl⟩ := exists_of_mem_candidates isAsked
  obtain ⟨first, others, nonempty⟩ := List.exists_cons_of_ne_nil
    (show rest ++ [name] ≠ [] by simp)
  refine ⟨first, others, ?_⟩
  rw [← nonempty, Path.child, names, List.append_assoc]

end Named

section Distinct

variable {t : FileTree} (distinct : t.Distinct) {options : SearchOptions} {p root : Path}
  {ps : List Path} {listed : Listing}
include distinct

theorem nodup_listing (lists : t.listing p = .ok listed) : listed.names.Nodup := by
  obtain ⟨directory, -, -, rfl⟩ := listing_ok_iff.mp lists
  have places := distinct.filterMap
    (f := fun place => if place.dropLast == directory then place.getLast? else none) ?_
  · simpa [namesIn, List.filterMap_map, Function.comp_def] using places
  · intro place other name first second
    simp only [Option.mem_def, Option.ite_none_right_eq_some, beq_iff_eq] at first second
    rw [← List.dropLast_append_getLast? name first.2, first.1,
      ← List.dropLast_append_getLast? name second.2, second.1]

theorem nodup_children (lists : t.listing p = .ok listed) (keeps : String → Bool) :
    ((listed.names.filter keeps).map p.child).Nodup := by
  refine List.Nodup.map ?_ ((nodup_listing distinct lists).filter _)
  intro name other same
  simpa [Path.child] using same

theorem nodup_sourcesBelow {depth : Nat} (done : t.sourcesBelow options depth p = .ok ps) :
    ps.Nodup := by
  induction depth generalizing p ps with
  | zero => cases done
  | succ depth ih =>
    cases lists : t.listing p with
    | error fault =>
      cases done.symm.trans (sourcesBelow_unlisted lists)
      exact List.nodup_nil
    | ok listed =>
      obtain ⟨-, all, rfl⟩ := (sourcesBelow_listed lists).mp done
      have asked : ∀ d ∈ t.entered options p listed,
          ∀ q ∈ returned (t.sourcesBelow options depth d), t.Asks options d q := by
        intro d isEntered q inside
        obtain ⟨below, ends⟩ := all d isEntered
        rw [ends] at inside
        exact ((mem_sourcesBelow ends).mp inside).1
      refine List.Nodup.append ((nodup_children distinct lists _).filter _) ?_ ?_
      · refine List.nodup_flatMap.mpr ⟨?_, ?_⟩
        · intro d isEntered
          obtain ⟨below, ends⟩ := all d isEntered
          rw [ends]
          exact ih ends
        · -- what is found below a directory has the name of that directory behind the names of `p`
          refine (nodup_children distinct lists _).imp_of_mem ?_
          intro d e first second apart q inside insideToo
          obtain ⟨_, _, names⟩ := names_of_asks (asked d first q inside)
          obtain ⟨_, _, namesToo⟩ := names_of_asks (asked e second q insideToo)
          obtain ⟨name, -, rfl⟩ := exists_of_mem_entered first
          obtain ⟨other, -, rfl⟩ := exists_of_mem_entered second
          rw [names] at namesToo
          simp only [Path.child, List.append_assoc, List.append_cancel_left_eq, List.cons_append,
            List.nil_append, List.cons.injEq] at namesToo
          exact apart (congrArg p.child namesToo.1)
      · intro q here below
        obtain ⟨name, -, rfl⟩ := exists_of_mem_candidates (List.mem_filter.mp here).1
        obtain ⟨d, isEntered, inside⟩ := List.mem_flatMap.mp below
        obtain ⟨_, _, names⟩ := names_of_asks (asked d isEntered _ inside)
        obtain ⟨other, -, rfl⟩ := exists_of_mem_entered isEntered
        simp [Path.child] at names

theorem nodup_sourcesMet (done : t.sourcesMet options root = .ok ps) : ps.Nodup := by
  unfold sourcesMet at done
  split at done
  · exact nodup_sourcesBelow distinct done
  · obtain ⟨listed, lists, -, rfl⟩ := sourcesIn_ok.mp done
    have all := nodup_children distinct lists fun _ => true
    rw [List.filter_eq_self.mpr fun _ _ => rfl] at all
    exact (all.filter _).filter _

theorem sources_ascending (done : t.sources options root = .ok ps) :
    ps.Pairwise fun p q => p.le q = true ∧ p ≠ q := by
  obtain ⟨met, ends, rfl⟩ := sources_ok.mp done
  have sorted := List.pairwise_mergeSort Path.le_trans Path.le_total met
  exact sorted.and ((List.mergeSort_perm _ _).nodup_iff.mpr (nodup_sourcesMet distinct ends))

/-- Trees that hold the same items give the same list. -/
theorem Alike.sources {other : FileTree} (alike : t.Alike other)
    (done : t.sources options root = .ok ps) : other.sources options root = .ok ps := by
  have distinctToo : other.Distinct := alike.places.nodup_iff.mp distinct
  obtain ⟨qs, doneToo⟩ := sources_returns.mpr (alike.searchable (sources_returns.mp ⟨ps, done⟩))
  have ascending := sources_ascending distinct done
  have ascendingToo := sources_ascending distinctToo doneToo
  have same : qs.Perm ps := by
    refine (List.perm_ext_iff_of_nodup (ascendingToo.imp (·.2)) (ascending.imp (·.2))).mpr ?_
    intro q
    rw [mem_sources done, mem_sources doneToo, alike.isFile]
    exact and_congr_left fun _ => ⟨alike.symm.comesUpon, alike.comesUpon⟩
  -- sorted lists of the same paths are equal, since the order tells any two paths apart
  have equal := same.eq_of_pairwise (fun _ _ _ _ first second => Path.le_antisymm first second)
    (ascendingToo.imp (·.1)) (ascending.imp (·.1))
  rw [doneToo, equal]

end Distinct

end PoolLint.FileTree
