import ModuleRuntime.Number.Instances

/-!
# BLAKE3

The digest of a sequence of octets. The octets are cut into chunks of 1024 and these into blocks of
64. The blocks of a chunk are compressed one after another, and the chunks are the leaves of a
binary tree whose inner nodes compress the values of their two children. The digest is taken from
the root.
-/

set_option autoImplicit false

namespace ModuleRuntime.Blake3

/-- Eight words, the value that a chain of compressions carries on. -/
abbrev Chain := Vector UInt32 8

/-- Sixteen words, a block or the state of a compression. -/
abbrev Block := Vector UInt32 16

/-- The value that every chain starts with. -/
def initial : Chain :=
  #v[0x6A09E667, 0xBB67AE85, 0x3C6EF372, 0xA54FF53A, 0x510E527F, 0x9B05688C, 0x1F83D9AB, 0x5BE0CD19]

/-- What marks the first and the last block of a chunk, an inner node, and the root. -/
def chunkStart : UInt32 := 1

@[inherit_doc chunkStart]
def chunkEnd : UInt32 := 2

@[inherit_doc chunkStart]
def innerNode : UInt32 := 4

@[inherit_doc chunkStart]
def rootNode : UInt32 := 8

/-- A word rotated to the right. -/
def rotateRight (x n : UInt32) : UInt32 :=
  (x >>> n) ||| (x <<< (32 - n))

/-- Mixes two words of a block into four words of the state. -/
def mix (s : Block) (a b c d : Fin 16) (x y : UInt32) : Block :=
  let wa := s[a] + s[b] + x
  let wd := rotateRight (s[d] ^^^ wa) 16
  let wc := s[c] + wd
  let wb := rotateRight (s[b] ^^^ wc) 12
  let va := wa + wb + y
  let vd := rotateRight (wd ^^^ va) 8
  let vc := wc + vd
  let vb := rotateRight (wb ^^^ vc) 7
  (((s.set a va).set b vb).set c vc).set d vd

/-- One round: the columns of the state, then its diagonals. -/
def round (s m : Block) : Block :=
  let s := mix s 0 4 8 12 m[0] m[1]
  let s := mix s 1 5 9 13 m[2] m[3]
  let s := mix s 2 6 10 14 m[4] m[5]
  let s := mix s 3 7 11 15 m[6] m[7]
  let s := mix s 0 5 10 15 m[8] m[9]
  let s := mix s 1 6 11 12 m[10] m[11]
  let s := mix s 2 7 8 13 m[12] m[13]
  mix s 3 4 9 14 m[14] m[15]

/-- The order of the words of a block for the next round. -/
def permute (m : Block) : Block :=
  #v[m[2], m[6], m[3], m[10], m[7], m[0], m[4], m[13],
    m[1], m[11], m[12], m[5], m[9], m[14], m[15], m[8]]

/-- A number of rounds, the words of the block permuted after each. -/
def rounds : Nat → Block → Block → Block
  | 0, s, _ => s
  | n + 1, s, m => rounds n (round s m) (permute m)

/-- A compression that has still to be done: of a block, into a chain. -/
structure Node where
  chain : Chain
  block : Block
  counter : Nat
  length : UInt32
  flags : UInt32

/-- The value that a compression carries on. -/
def Node.compress (n : Node) : Chain :=
  let h := n.chain
  let s := rounds 7
    #v[h[0], h[1], h[2], h[3], h[4], h[5], h[6], h[7], initial[0], initial[1], initial[2],
      initial[3], UInt32.ofNat n.counter, UInt32.ofNat (n.counter / 2 ^ 32), n.length, n.flags]
    n.block
  Vector.ofFn fun i => s[i.val] ^^^ s[i.val + 8]

/-- The word of four octets, the lowest first. -/
def word (octets : List UInt8) : UInt32 :=
  octets.foldr (fun o w => w <<< 8 ||| o.toUInt32) 0

/-- The octets of a word, the lowest first. -/
def octets (w : UInt32) : List UInt8 :=
  [w.toUInt8, (w >>> 8).toUInt8, (w >>> 16).toUInt8, (w >>> 24).toUInt8]

/-- The words of at most 64 octets, filled up with zeros. -/
def blockOf (octets : List UInt8) : Block :=
  Vector.ofFn fun i => word ((octets.drop (4 * i.val)).take 4)

/-- The pieces of a list of a positive size, of which only the last may be shorter. -/
def pieces {α : Type} (size : Nat) (l : List α) : List (List α) :=
  (List.range ((l.length + size - 1) / size)).map fun i => (l.drop (size * i)).take size

/-- The compression of the last of the blocks of a chunk, after those before it. -/
def chunkFrom (counter : Nat) (chain : Chain) (flags : UInt32) : List (List UInt8) → Node
  | [] => ⟨chain, blockOf [], counter, 0, flags ||| chunkEnd⟩
  | [last] => ⟨chain, blockOf last, counter, UInt32.ofNat last.length, flags ||| chunkEnd⟩
  | block :: rest =>
    let node : Node := ⟨chain, blockOf block, counter, UInt32.ofNat block.length, flags⟩
    chunkFrom counter node.compress 0 rest

/-- The node of a chunk with its number. -/
def chunk (octets : List UInt8) (counter : Nat) : Node :=
  chunkFrom counter initial chunkStart (pieces 64 octets)

/-- The node above two others. -/
def parent (left right : Node) : Node :=
  let l := left.compress
  let r := right.compress
  ⟨initial, Vector.ofFn fun i => if h : i.val < 8 then l[i.val] else r[i.val - 8], 0, 64, innerNode⟩

/-- The nodes above neighbours; a last node without a neighbour stays. -/
def pairUp : List Node → List Node
  | left :: right :: rest => parent left right :: pairUp rest
  | nodes => nodes

/-- Pairing nodes up makes no more of them. -/
theorem length_pairUp_le (nodes : List Node) : (pairUp nodes).length ≤ nodes.length := by
  fun_induction pairUp nodes with
  | case1 left right rest ih => simp only [List.length_cons]; omega
  | case2 => exact Nat.le_refl _

/-- The root of the tree over a first node and others to its right. -/
def root (first : Node) : List Node → Node
  | [] => first
  | second :: rest => root (parent first second) (pairUp rest)
  termination_by nodes => nodes.length
  decreasing_by
    have := length_pairUp_le rest
    simp only [List.length_cons]
    omega

/-- The digest of a sequence of octets. -/
def digest (input : List UInt8) : List UInt8 :=
  let chunks := (pieces 1024 input).zipIdx.map fun (octets, i) => chunk octets i
  let top := root (chunks.headD (chunk [] 0)) chunks.tail
  ({ top with flags := top.flags ||| rootNode }.compress.toList).flatMap octets

end ModuleRuntime.Blake3
