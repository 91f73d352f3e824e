import Whix.Framework.Interleaving
import Whix.Framework.Collection
import Whix.Framework.JavaScript
import Whix.Framework.Paths
import Whix.Framework.FileTree
import Whix.Framework.Spans
import Whix.Backend.Store
import Whix.Backend.Functions
import Whix.Backend.Server
import Whix.Backend.Effects
import Whix.Backend.Sequential
import Whix.Client.Session
import Whix.Client.LoginScreen
import Whix.Client.Device
import Whix.Client.Cell
import Whix.Client.Feed
import Whix.Client.StoragePath
import Whix.Client.Disk
import Whix.Client.FeedApp
import Whix.Client.CoreGraphics
import Whix.Client.Network
import Whix.Client.PhotoEditor
import Whix.Properties.CanvasViews
import Whix.Properties.EditorControls
import Whix.Properties.EditorText
import Whix.Properties.EditorGestures
import Whix.Properties.EditorDrawing
import Whix.Properties.CropShown
import Whix.Properties.CropResizing
import Whix.Client.CropView
import Whix.Client.Recorder
import Whix.Properties.CameraRelease
import Whix.Client.Android
import Whix.Properties.AccountUniqueness
import Whix.Properties.AccountDirectory
import Whix.Properties.LoginSoundness
import Whix.Properties.PostSoundness
import Whix.Properties.ReplyWrites
import Whix.Properties.PostInvariants
import Whix.Properties.LikeHistory
import Whix.Properties.LikeSerializability
import Whix.Properties.SessionCoherence
import Whix.Properties.UsernameTrimming
import Whix.Properties.LogoutFinality
import Whix.Properties.LoginValidity
import Whix.Properties.PostAttribution
import Whix.Properties.PublishRetry
import Whix.Properties.Uploads
import Whix.Properties.PhoneCalls
import Whix.Properties.PublishedOnce
import Whix.Properties.AccountBehind
import Whix.Properties.CameraDismissal
import Whix.Properties.FeedIndices
import Whix.Properties.FeedCell
import Whix.Properties.CachedContent
import Whix.Properties.VideoEnd
import Whix.Properties.PostRendering
import Whix.Properties.StorageNavigation
import Whix.Properties.StorageUrls
import Whix.Properties.DiskStore
import Whix.Properties.ShownContent
import Whix.Properties.AndroidFeed
