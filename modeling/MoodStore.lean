import MoodStore.Catalog
import MoodStore.Cli
import MoodStore.Conversation
import MoodStore.Conversation.Json
import MoodStore.Error
import MoodStore.Event
import MoodStore.Fault
import MoodStore.Guard
import MoodStore.Ids
import MoodStore.Json.Decode
import MoodStore.Json.Parse
import MoodStore.Json.Render
import MoodStore.Json.Scan
import MoodStore.Json.Value
import MoodStore.Listing.Cursor
import MoodStore.Listing.Query
import MoodStore.Listing.Tiered
import MoodStore.Listing.Walk
import MoodStore.Logging.Config
import MoodStore.Logging.FileTree
import MoodStore.Logging.State
import MoodStore.Main
import MoodStore.Mood
import MoodStore.Mood.Json
import MoodStore.Numeral.Base36
import MoodStore.Proofs.Account.Documents
import MoodStore.Proofs.Account.Isolation
import MoodStore.Proofs.Account.Model
import MoodStore.Proofs.Account.Refinement
import MoodStore.Proofs.Account.Tables
import MoodStore.Proofs.Account.Turns
import MoodStore.Proofs.Catalog
import MoodStore.Proofs.Listing.Order
import MoodStore.Proofs.Listing.Paging
import MoodStore.Proofs.Listing.Stability
import MoodStore.Proofs.Service.Effects
import MoodStore.Proofs.Service.Listings
import MoodStore.Proofs.Service.Reachable
import MoodStore.Proofs.Service.Walks
import MoodStore.Proofs.Store.Sound
import MoodStore.Proofs.Store.Statements
import MoodStore.Service.Calls
import MoodStore.Service.Conversations
import MoodStore.Service.Moods
import MoodStore.Service.Session
import MoodStore.Service.World
import MoodStore.Store.Database
import MoodStore.Store.Migration
import MoodStore.Store.Opening
import MoodStore.Store.Rows
import MoodStore.StoreConfig
import MoodStore.Text.Cased
import MoodStore.Text.Escaped
import MoodStore.Text.Fold
import MoodStore.Text.Lowercase
import MoodStore.Text.Path
import MoodStore.Text.Quoted
import MoodStore.Proofs.Account.Ledger
import MoodStore.Proofs.Account.Nested
import MoodStore.Proofs.Account.MoodMap
import MoodStore.Proofs.Service.Consistency
import MoodStore.Proofs.Service.Atomicity
import MoodStore.Proofs.Service.Attempts
import MoodStore.Proofs.Account.Dependents
import MoodStore.Proofs.Service.Blame
import MoodStore.Proofs.Service.Meanings
import MoodStore.Proofs.Service.Faults
import MoodStore.Proofs.Account.LiveMoods
import MoodStore.Proofs.Listing.Shadows
import MoodStore.Proofs.Service.ShadowedWalks
import MoodStore.Proofs.Store.Veil
import MoodStore.Proofs.Service.Paired
import MoodStore.Proofs.Service.Alike
import MoodStore.Proofs.Service.Content
import MoodStore.Proofs.Logging.WriteOnce
import MoodStore.Proofs.Store.Openings
import MoodStore.Proofs.Service.FreshIds
import MoodStore.Json.Codec
import MoodStore.Conversation.Held
import MoodStore.Proofs.Json.RoundTrip
import MoodStore.Proofs.Json.Models
import MoodStore.Proofs.Service.Trials
import MoodStore.Proofs.Listing.AnyTier
import MoodStore.Proofs.Listing.Parameters
import MoodStore.Proofs.Service.Resumption
import MoodStore.Proofs.Store.PoolSettings
import MoodStore.Proofs.Numeral.Words
import MoodStore.Proofs.Logging.Crashes
import MoodStore.Proofs.Text.Folding
import MoodStore.Proofs.Service.Spellings
import MoodStore.Proofs.Json.Members
import MoodStore.Proofs.Json.Objects
import MoodStore.Proofs.Json.Settings
import MoodStore.Proofs.Configurations
