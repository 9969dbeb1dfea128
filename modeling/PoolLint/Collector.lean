import PoolLint.Diagnostic

/-! A channel that keeps diagnostics in the order they were reported. A snapshot is a list of its
own: what happens to it later does not reach the channel. -/
namespace PoolLint

structure Collector where
  diagnostics : List Diagnostic
  deriving Repr

namespace Collector

def empty : Collector := ⟨[]⟩

def report (c : Collector) (d : Diagnostic) : Collector := ⟨c.diagnostics ++ [d]⟩

def reportAll (c : Collector) (ds : List Diagnostic) : Collector := ds.foldl report c

def size (c : Collector) : Nat := c.diagnostics.length

end Collector
end PoolLint
