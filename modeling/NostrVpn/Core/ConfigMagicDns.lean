import NostrVpn.Core.ConfigDefaults

/-!
# MagicDNS labels

`nostr-vpn-core/src/config_magic_dns.rs`. A set of used labels is a list; a function that takes
`&mut HashSet` returns the set it leaves.
-/
namespace NostrVpn.Core

open Rust

/-- The loop of `normalize_magic_dns_label`: a run of other characters becomes one dash. -/
def magicDnsChars (previousDash : Bool) : List Char → List Char
  | [] => []
  | ch :: rest =>
    if ch.isAlphanum then ch.toLower :: magicDnsChars false rest
    else if previousDash then magicDnsChars true rest
    else '-' :: magicDnsChars true rest

def normalizeMagicDnsLabel (value : String) : Option String :=
  let label := ((magicDnsChars false value.toList).rdropWhile (· == '-')).dropWhile (· == '-')
  let label := if 63 < label.length then (label.take 63).rdropWhile (· == '-') else label
  if label = [] then none else some (.ofList label)

def hashtreeAnimalAliases : List String :=
  ["aardvark", "aardwolf", "albatross", "alligator", "alpaca", "anaconda", "angelfish", "ant",
   "anteater", "antelope", "ape", "armadillo", "baboon", "badger", "barracuda", "bat", "bear",
   "beaver", "bee", "beetle", "bison", "blackbird", "boa", "boar", "bobcat", "bonobo",
   "butterfly", "buzzard", "camel", "capybara", "cardinal", "caribou", "carp", "cat", "catfish",
   "centipede", "chameleon", "cheetah", "chicken", "chimpanzee", "chinchilla", "chipmunk", "clam",
   "clownfish", "cobra", "cockroach", "condor", "cougar", "cow", "coyote", "crab", "crane",
   "crayfish", "cricket", "crocodile", "crow", "cuckoo", "deer", "dingo", "dolphin", "donkey",
   "dove", "dragonfly", "duck", "eagle", "earthworm", "echidna", "eel", "egret", "elephant",
   "elk", "emu", "falcon", "ferret", "finch", "firefly", "fish", "flamingo", "fox", "frog",
   "gazelle", "gecko", "gerbil", "giraffe", "goat", "goldfish", "goose", "gorilla", "grasshopper",
   "grouse", "guanaco", "gull", "hamster", "hare", "hawk", "hedgehog", "heron", "hippopotamus",
   "hornet", "horse", "hummingbird", "hyena", "ibis", "iguana", "impala", "jackal", "jaguar",
   "jellyfish", "kangaroo", "koala", "koi", "ladybug", "lemur", "leopard", "lion", "lizard",
   "llama", "lobster", "lynx", "macaw", "magpie", "manatee", "marten", "meerkat", "mink", "mole",
   "mongoose", "monkey", "moose", "mosquito", "moth", "mouse", "mule", "narwhal", "newt",
   "nightingale", "octopus", "opossum", "orangutan", "orca", "ostrich", "otter", "owl", "oyster",
   "panda", "panther", "parrot", "peacock", "pelican", "penguin", "pheasant", "pig", "pigeon",
   "piranha", "platypus", "porcupine", "porpoise", "puffin", "python", "quail", "rabbit",
   "raccoon", "ram", "rat", "raven", "reindeer", "rhino", "salamander", "salmon", "scorpion",
   "seahorse", "seal", "shark", "sheep", "skunk", "sloth", "snail", "snake", "sparrow", "spider",
   "squid", "squirrel", "starfish", "stork", "swan", "tapir", "termite", "tiger", "toad",
   "toucan", "trout", "turkey", "turtle", "viper", "vulture", "walrus", "wasp", "weasel", "whale",
   "wildcat", "wolf", "wombat", "woodpecker", "yak", "zebra"]

/-- The first free alias from the one the digest selects, going round once. -/
def defaultMagicDnsLabelForPubkey (sha256 : Sha256) (pubkeyHex : String) (usedAliases : List String) :
    String :=
  let digest := sha256 pubkeyHex.toUTF8.data.toList
  let count := hashtreeAnimalAliases.length
  let index := ((digest.getD 0 0).toNat * 256 + (digest.getD 1 0).toNat) % count
  let rotation := hashtreeAnimalAliases.drop index ++ hashtreeAnimalAliases.take index
  (rotation.find? fun candidate => !usedAliases.contains candidate).getD
    ("peer-" ++ .ofList (pubkeyHex.toList.take 12))

/-- The candidate with a counter, cut to the 63 bytes of a label. -/
def magicDnsCandidate (base : String) (counter : Nat) : String :=
  let suffix := "-" ++ fmtNat counter
  let maxBaseLen := 63 - suffix.utf8ByteSize
  let candidateBase := if maxBaseLen < base.utf8ByteSize then
    .ofList ((base.toList.take maxBaseLen).rdropWhile (· == '-')) else base
  candidateBase ++ suffix

def uniquifyMagicDnsLabel (base : String) (used : List String) : String × List String :=
  let base := if base = "" then "peer" else base
  if base ∉ used then (base, base :: used)
  else match (List.range' 2 9998).find? fun counter => magicDnsCandidate base counter ∉ used with
    | some counter => (magicDnsCandidate base counter, magicDnsCandidate base counter :: used)
    | none => (base, used)

example : normalizeMagicDnsLabel "--My Laptop (2)!" = some "my-laptop-2" := by decide

end NostrVpn.Core
