import TargetedConfig.Digest.Sha256

/-!
# Buckets

Users are spread over a hundred million buckets by a digest of a seed and their randomization id, so
the same pair always lands in the same bucket.
-/

namespace TargetedConfig.Bucket

/-- The number of buckets: one hundred percent in millionths of a percent. -/
def count : Nat := 100000000

/-- The text that is digested: the seed, if there is one, and the id with a dot between them. -/
def seeded (seed id : String) : String := if seed = "" then id else seed ++ "." ++ id

/-- The bucket of a randomization id. Texts are those that UTF-8 can encode: one with a lone
surrogate has no bytes to digest, and an evaluation that comes to it fails. -/
def ofId (seed id : String) : Nat := Sha256.digest (seeded seed id).toUTF8 % count

end TargetedConfig.Bucket
